import Mathlib.Tactic
import ChainElection.Client.Submitter
import ChainElection.Proofs.Http.Fetching
import ChainElection.Proofs.Json.Reader

/-!
The candidates that are listed, and ballots for them.

A candidate whose description cannot be had is left out of the list, so what is
listed does not stand at its place in the list of the contract any more. Its
index says where that is, and a ballot for a candidate is made from the index.

* `Candidate.mem_choose_iff`, `Candidate.pairwise_choose`: what is chosen, and in
  which order. `filter_choose_congr`: a candidate's outcome is of no account for
  the others.
* `Ballot.single_of_lt`: the ballot for one candidate.
* `listed_candidates_keep_their_places` puts this together with what the fetches
  of the descriptions come to.
-/

namespace ChainElection

namespace Candidate

variable {ε : Type} {rs rs' : List (Except ε CandidateDetails)} {n : ℕ}

/-! ### Choosing candidates -/

lemma chooseFrom_cons (n : ℕ) (r : Except ε CandidateDetails) (rs : List (Except ε CandidateDetails)) :
    chooseFrom n (r :: rs) = (r.toOption.map (Candidate.mk n)).toList ++ chooseFrom (n + 1) rs := by
  cases r <;> rfl

/-- A candidate is chosen if the description at its place could be had. -/
lemma mem_chooseFrom_iff {candidate : Candidate} :
    candidate ∈ chooseFrom n rs ↔
      n ≤ candidate.index ∧ rs[candidate.index - n]? = some (.ok candidate.details) := by
  induction rs generalizing n with
  | nil => simp [chooseFrom]
  | cons r rs ih =>
      rw [chooseFrom_cons, List.mem_append, ih]
      have hhead (hne : candidate.index ≠ n) : candidate ∉ (r.toOption.map (Candidate.mk n)).toList := by
        intro hmem
        obtain ⟨d, -, rfl⟩ := Option.map_eq_some_iff.mp (Option.mem_toList.mp hmem)
        exact hne rfl
      rcases Nat.lt_trichotomy candidate.index n with hlt | heq | hgt
      · simp only [hhead hlt.ne, false_or]
        omega
      · obtain ⟨i, details⟩ := candidate
        obtain rfl : i = n := heq
        cases r with
        | ok d => simp [Except.toOption, eq_comm]
        | error e => simp [Except.toOption]
      · obtain ⟨k, hk⟩ : ∃ k, candidate.index = n + 1 + k := ⟨candidate.index - (n + 1), by omega⟩
        have hrest : candidate.index - (n + 1) = k := by omega
        have hwhole : candidate.index - n = k + 1 := by omega
        simp only [hhead hgt.ne', false_or, hrest, hwhole, List.getElem?_cons_succ]
        exact ⟨fun h => ⟨by omega, h.2⟩, fun h => ⟨by omega, h.2⟩⟩

/-- Candidates are chosen in the order of the contract's list. -/
lemma pairwise_chooseFrom (n : ℕ) (rs : List (Except ε CandidateDetails)) :
    (chooseFrom n rs).Pairwise fun x y => x.index < y.index := by
  induction rs generalizing n with
  | nil => exact .nil
  | cons r rs ih =>
      rw [chooseFrom_cons]
      refine List.pairwise_append.mpr ⟨?_, ih (n + 1), fun x hx y hy => ?_⟩
      · cases r with
        | ok d => exact List.pairwise_singleton _ _
        | error e => exact .nil
      · obtain ⟨d, -, rfl⟩ := Option.map_eq_some_iff.mp (Option.mem_toList.mp hx)
        exact (mem_chooseFrom_iff.mp hy).1

/-- Where two lists of outcomes differ in one place only, the same others are chosen. -/
lemma filter_chooseFrom_congr (hlength : rs'.length = rs.length) {k : ℕ}
    (hsame : ∀ i, n + i ≠ k → rs'[i]? = rs[i]?) :
    (chooseFrom n rs').filter (fun x => x.index ≠ k) = (chooseFrom n rs).filter (fun x => x.index ≠ k) := by
  induction rs generalizing n rs' with
  | nil => rw [List.eq_nil_of_length_eq_zero hlength]
  | cons r rs ih =>
      obtain ⟨r', rs', rfl⟩ := List.exists_cons_of_length_eq_add_one hlength
      have hrest := ih (n := n + 1) (Nat.succ.inj hlength) fun i hi =>
        hsame (i + 1) (by omega)
      rw [chooseFrom_cons, chooseFrom_cons, List.filter_append, List.filter_append, hrest]
      congr 1
      by_cases hn : n = k
      · -- whatever the outcome is, its candidate is the one that is not looked at
        have hnone : ∀ r : Except ε CandidateDetails,
            (r.toOption.map (Candidate.mk n)).toList.filter (fun x => x.index ≠ k) = [] := by
          intro r
          cases r <;> simp [Except.toOption, hn]
        rw [hnone, hnone]
      · have hhead : r' = r := by simpa using hsame 0 hn
        rw [hhead]

lemma mem_choose_iff {i : ℕ} {details : CandidateDetails} :
    ⟨i, details⟩ ∈ choose rs ↔ rs[i]? = some (.ok details) := by
  rw [choose, mem_chooseFrom_iff]
  simp

lemma pairwise_choose (rs : List (Except ε CandidateDetails)) :
    (choose rs).Pairwise fun x y => x.index < y.index := pairwise_chooseFrom 0 rs

lemma index_lt_of_mem_choose {candidate : Candidate} (h : candidate ∈ choose rs) :
    candidate.index < rs.length :=
  (List.getElem?_eq_some_iff.mp (mem_choose_iff.mp h)).1

lemma filter_choose_congr (hlength : rs'.length = rs.length) {k : ℕ}
    (hsame : ∀ i, i ≠ k → rs'[i]? = rs[i]?) :
    (choose rs').filter (fun x => x.index ≠ k) = (choose rs).filter (fun x => x.index ≠ k) :=
  filter_chooseFrom_congr hlength fun i hi => hsame i (by simpa using hi)

end Candidate

/-! ### Descriptions -/

namespace CandidateDetails

/-- A description is decoded from its JSON value. -/
lemma ofJson_toJson (d : CandidateDetails) : ofJson d.toJson = .ok d := by
  have hname (x : Draft) (h : x.name = none) :
      Draft.step "name" (Json.ofText d.name) x = .ok { x with name := some d.name } := by
    rw [Draft.step, if_pos rfl, h, Json.fill_none (Json.asText_ofText d.name)]
    rfl
  have himage (x : Draft) (h : x.imageUrl = none) :
      Draft.step "imageUrl" (Json.ofOption Json.ofText d.imageUrl) x =
        .ok { x with imageUrl := some d.imageUrl } := by
    rw [Draft.step, if_neg (by decide), if_pos rfl, h,
      Json.fill_none (Json.readsBack_ofOption_ofText.decoded d.imageUrl)]
    rfl
  have hpage (x : Draft) (h : x.descriptionUrl = none) :
      Draft.step "descriptionUrl" (Json.ofOption Json.ofText d.descriptionUrl) x =
        .ok { x with descriptionUrl := some d.descriptionUrl } := by
    rw [Draft.step, if_neg (by decide), if_neg (by decide), if_pos rfl, h,
      Json.fill_none (Json.readsBack_ofOption_ofText.decoded d.descriptionUrl)]
    rfl
  have hdraft : Json.foldMembers Draft.step ⟨none, none, none⟩
      [(Json.escape "name", Json.ofText d.name),
        (Json.escape "imageUrl", Json.ofOption Json.ofText d.imageUrl),
        (Json.escape "descriptionUrl", Json.ofOption Json.ofText d.descriptionUrl)] =
      .ok ⟨some d.name, some d.imageUrl, some d.descriptionUrl⟩ :=
    (Json.foldMembers_cons (hname _ rfl) _).trans <| (Json.foldMembers_cons (himage _ rfl) _).trans
      (Json.foldMembers_cons (hpage _ rfl) _)
  rw [toJson, Json.ofMembers, ofJson]
  simp only [List.map_cons, List.map_nil, hdraft]
  rfl

lemma isPlain_toJson (d : CandidateDetails) : Json.IsPlain d.toJson := by
  refine Json.isPlain_ofMembers fun m hm => ?_
  simp only [List.mem_cons, List.not_mem_nil, or_false] at hm
  rcases hm with rfl | rfl | rfl
  · exact Json.isPlain_ofText _
  · exact Json.readsBack_ofOption_ofText.isPlain _
  · exact Json.readsBack_ofOption_ofText.isPlain _

lemma readsBack : Json.ReadsBack ofJson toJson := ⟨isPlain_toJson, ofJson_toJson⟩

/-- A description is decoded from its bytes. -/
lemma decode_render (d : CandidateDetails) : Json.decode ofJson d.toJson.render = .ok d :=
  readsBack.render d

end CandidateDetails

namespace Gathering

variable {limit : ℕ} {rs : List Resource} {answers : ℕ → Except HttpFault HttpAnswer}

@[simp] lemma length_descriptions : (descriptions limit rs answers).length = rs.length :=
  List.length_mapIdx

/-- Which description is had at a place. -/
lemma getElem?_descriptions_eq_ok_iff {i : ℕ} {details : CandidateDetails} :
    (descriptions limit rs answers)[i]? = some (.ok details) ↔
      ∃ r a, rs[i]? = some r ∧ answers i = .ok a ∧ ¬(400 ≤ a.status ∧ a.status < 600) ∧
        a.body.broken = false ∧ a.body.chunks.flatten.length ≤ limit ∧
        Sha256.digest a.body.chunks.flatten = r.digest ∧
        Json.decode CandidateDetails.ofJson a.body.chunks.flatten = .ok details ∧
        Text.isAllBlank details.name = false := by
  rw [descriptions, List.getElem?_mapIdx, Option.map_eq_some_iff]
  constructor
  · rintro ⟨r, hr, hdetails⟩
    obtain ⟨a, ha, hstatus, hwhole, hlimit, hdigest, hdecode, hname⟩ :=
      Resource.ofAnswer_eq_ok_iff.mp hdetails
    exact ⟨r, a, hr, ha, hstatus, hwhole, hlimit, hdigest, hdecode, by
      simpa [CandidateDetails.isWellFormed] using hname⟩
  · rintro ⟨r, a, hr, ha, hstatus, hwhole, hlimit, hdigest, hdecode, hname⟩
    refine ⟨r, hr, Resource.ofAnswer_eq_ok_iff.mpr
      ⟨a, ha, hstatus, hwhole, hlimit, hdigest, hdecode, ?_⟩⟩
    rw [CandidateDetails.isWellFormed, hname]
    rfl

/-- The answer for one candidate says nothing about the descriptions of others. -/
lemma getElem?_descriptions_update {k i : ℕ} (hi : i ≠ k) (answer : Except HttpFault HttpAnswer) :
    (descriptions limit rs (Function.update answers k answer))[i]? =
      (descriptions limit rs answers)[i]? := by
  rw [descriptions, descriptions, List.getElem?_mapIdx, List.getElem?_mapIdx,
    Function.update_of_ne hi]

end Gathering

/-! ### Ballots -/

/-- The ballot that selects one candidate. -/
lemma Ballot.single_of_lt {index count : ℕ} (h : index < count) :
    single index count = .ok ⟨(List.range count).map (· == index)⟩ := by
  have hsome : ((List.range count).map (· == index)).isEmpty = false := by
    rw [List.isEmpty_eq_false_iff, ne_eq, List.map_eq_nil_iff, List.range_eq_nil]
    omega
  rw [single, if_neg (not_le.mpr h), Ballot.of, hsome]
  rfl

/-- A ballot with as many selections as there are candidates is refused only outside of the election. -/
lemma ElectionConfig.admit_of_length {c : ElectionConfig} {b : Ballot}
    (h : b.selections.length = c.candidates.length) (now : Instant) :
    c.admit now b =
      if c.phase now = .voting then .ok () else .error (.electionClosed (c.phase now)) := by
  unfold ElectionConfig.admit
  by_cases hphase : c.phase now = .voting
  · rw [if_neg (not_not.mpr hphase), if_neg (not_not.mpr h), if_pos hphase]
  · rw [if_pos hphase, if_neg hphase]

/-- The descriptions of all candidates are fetched at once, and what comes back comes in any order. Once
every fetch has gone on as often as it can, there is a list of candidates. It is the same in whatever order
things have come; its indices increase; and a candidate is listed, with a description, if and only if its
answer is not a refusal, its body comes through within the limit, has the digest that the contract holds
for its place and is the text of this description, and there is a name. What comes back for one candidate
makes no difference for the others. A ballot can be made for each listed candidate: it has as many
selections as the contract has candidates, selects the candidate at the listed index and no other, and is
admitted whenever the election accepts ballots. Whoever asks for one description after the other, and gets
the same answers, lists the same candidates. -/
theorem listed_candidates_keep_their_places (c : ElectionConfig) (limit : ℕ)
    (answers : ℕ → Except HttpFault HttpAnswer) :
    (∀ schedule : List ℕ,
      (∀ i < c.candidates.length,
        (FetchPhase.asking (answers i) : FetchPhase CandidateDetails).remaining ≤ schedule.count i) →
      ∃ listed, ((Gathering.start c.candidates answers).run limit schedule).candidates? = some listed) ∧
    ∀ schedule listed,
      ((Gathering.start c.candidates answers).run limit schedule).candidates? = some listed →
      (∀ schedule' listed',
        ((Gathering.start c.candidates answers).run limit schedule').candidates? = some listed' →
        listed' = listed) ∧
      listed.Pairwise (fun x y => x.index < y.index) ∧
      (∀ i details, ⟨i, details⟩ ∈ listed ↔
        ∃ r a, c.candidates[i]? = some r ∧ answers i = .ok a ∧ ¬(400 ≤ a.status ∧ a.status < 600) ∧
          a.body.broken = false ∧ a.body.chunks.flatten.length ≤ limit ∧
          Sha256.digest a.body.chunks.flatten = r.digest ∧
          Json.decode CandidateDetails.ofJson a.body.chunks.flatten = .ok details ∧
          Text.isAllBlank details.name = false) ∧
      (∀ k answer schedule' listed',
        ((Gathering.start c.candidates (Function.update answers k answer)).run limit
          schedule').candidates? = some listed' →
        listed'.filter (fun x => x.index ≠ k) = listed.filter (fun x => x.index ≠ k)) ∧
      (∀ candidate ∈ listed, ∃ b, Ballot.single candidate.index c.candidates.length = .ok b ∧
        b.selections.length = c.candidates.length ∧
        (∀ j < c.candidates.length, b.selections[j]? = some (decide (j = candidate.index))) ∧
        ∀ now, c.admit now b =
          if c.phase now = .voting then .ok () else .error (.electionClosed (c.phase now))) ∧
      ∀ (σ : Type) (ex : Exchange σ) (s : σ),
        (ex.askAll c.candidates s).1 = (List.range c.candidates.length).map answers →
        (Candidate.fetchAll ex limit c s).1 = listed := by
  constructor
  · intro schedule henough
    exact ⟨_, Gathering.candidates?_run henough⟩
  intro schedule listed h
  obtain rfl := Gathering.choose_of_candidates?_run h
  refine ⟨?_, Candidate.pairwise_choose _, ?_, ?_, ?_, ?_⟩
  · intro schedule' listed' h'
    exact Gathering.choose_of_candidates?_run h'
  · intro i details
    rw [Candidate.mem_choose_iff, Gathering.getElem?_descriptions_eq_ok_iff]
  · intro k answer schedule' listed' h'
    rw [Gathering.choose_of_candidates?_run h']
    refine Candidate.filter_choose_congr (by simp) fun i hi => ?_
    exact Gathering.getElem?_descriptions_update hi answer
  · intro candidate hcandidate
    have hlt : candidate.index < c.candidates.length := by
      simpa using Candidate.index_lt_of_mem_choose hcandidate
    have hlength : ((List.range c.candidates.length).map (· == candidate.index)).length =
        c.candidates.length := by
      rw [List.length_map, List.length_range]
    refine ⟨_, Ballot.single_of_lt hlt, hlength, ?_, ElectionConfig.admit_of_length hlength⟩
    intro j hj
    rw [List.getElem?_map, List.getElem?_range hj]
    rfl
  · intro σ ex s hsame
    exact Candidate.fetchAll_eq ex limit c s hsame

/-- Of two candidates the server does not have the first, and what comes back for the second comes first. -/
theorem listed_candidates_keep_their_places_of_refusal :
    let alice : CandidateDetails := ⟨"Alice", none, some "https://example.org/alice"⟩
    let bytes := alice.toJson.render
    let c : ElectionConfig := { (default : ElectionConfig) with
      candidates := [⟨"https://example.org/0", default⟩, ⟨"https://example.org/1", Sha256.digest bytes⟩] }
    let answers : ℕ → Except HttpFault HttpAnswer := fun i =>
      if i = 0 then .ok ⟨404, .whole []⟩ else .ok ⟨200, .whole bytes⟩
    ∃ listed, ((Gathering.start c.candidates answers).run bytes.length [1, 0, 1, 1, 0, 0]).candidates? =
        some listed ∧
      listed.Pairwise (fun x y => x.index < y.index) ∧ ⟨1, alice⟩ ∈ listed ∧
      (∀ details, ⟨0, details⟩ ∉ listed) ∧
      ∃ b, Ballot.single 1 2 = .ok b ∧ b.selections[1]? = some true := by
  intro alice bytes c answers
  obtain ⟨hends, hlisted⟩ := listed_candidates_keep_their_places c bytes.length answers
  obtain ⟨listed, h⟩ := hends [1, 0, 1, 1, 0, 0] fun i hi => by
    have hi : i < 2 := hi
    interval_cases i
    · exact le_refl 3
    · exact le_refl 3
  obtain ⟨-, hsorted, hmem, -, hballot, -⟩ := hlisted _ _ h
  have halice : ⟨1, alice⟩ ∈ listed := by
    refine (hmem 1 alice).mpr ⟨_, ⟨200, .whole bytes⟩, rfl, rfl, by decide, rfl, ?_, ?_, ?_, ?_⟩
    · rw [HttpBody.whole, List.flatten_singleton]
    · rw [HttpBody.whole, List.flatten_singleton]
    · rw [HttpBody.whole, List.flatten_singleton]
      exact alice.decode_render
    · decide
  obtain ⟨b, hb, -, hselections, -⟩ := hballot _ halice
  refine ⟨listed, h, hsorted, halice, fun details hdetails => ?_, b, hb, hselections 1 Nat.one_lt_two⟩
  obtain ⟨r, a, -, ha, hstatus, -⟩ := (hmem 0 details).mp hdetails
  cases ha
  exact hstatus ⟨by decide, by decide⟩

end ChainElection
