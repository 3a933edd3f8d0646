import Mathlib.Tactic
import ChainElection.Http.Gathering

/-!
What fetching a resource comes to.

* `HttpBody.readLimited_eq_ok_iff`: a body is read if it comes through and stays
  within the limit, however it is cut.
* `Resource.verify_eq_ok_iff`, `Resource.ofAnswer_eq_ok_iff`: what has to hold of
  an answer for a resource to be had from it.
* `FetchPhase.comesTo` is the outcome that a fetch is bound for.
  `comesTo_goOn`: it does not change while the fetch goes on, so `ofAnswer` says
  how it ends, whenever it does; `remaining_goOn` says that it does.
* `Gathering.fetches_run`: where many fetches are under way, each of them is
  where it would be by itself. `candidates?_run` says that they all come to their
  ends, `choose_of_candidates?_run` what is listed then, and
  `Candidate.fetchAll_eq` that asking one after the other makes no difference.
-/

namespace ChainElection

/-! ### Bodies -/

namespace HttpBody

/-- Chunks are read onto what is there if nothing breaks and the limit is kept. -/
lemma readChunks_eq_ok_iff {url : String} {limit : ℕ} {broken : Bool} {acc bs : List UInt8}
    {cs : List (List UInt8)} (hacc : acc.length ≤ limit) :
    readChunks url limit broken acc cs = .ok bs ↔
      broken = false ∧ acc.length + cs.flatten.length ≤ limit ∧ bs = acc ++ cs.flatten := by
  induction cs generalizing acc with
  | nil =>
      cases broken <;> simp [readChunks, hacc, eq_comm]
  | cons c cs ih =>
      rw [readChunks]
      split
      · rename_i hlimit
        simp only [reduceCtorEq, List.flatten_cons, List.length_append, false_iff, not_and]
        omega
      · rename_i hlimit
        have hacc' : (acc ++ c).length ≤ limit := by
          rw [List.length_append]
          omega
        rw [ih hacc', List.flatten_cons, List.length_append, List.length_append, List.append_assoc,
          Nat.add_assoc]

/-- A body is read if it comes through and is not longer than the limit. -/
theorem readLimited_eq_ok_iff {b : HttpBody} {url : String} {limit : ℕ} {bs : List UInt8} :
    b.readLimited url limit = .ok bs ↔
      b.broken = false ∧ b.chunks.flatten.length ≤ limit ∧ bs = b.chunks.flatten := by
  rw [readLimited, readChunks_eq_ok_iff (Nat.zero_le limit)]
  simp

end HttpBody

/-- A server refuses, or its answer is taken as it is. -/
lemma HttpAnswer.success?_cases (a : HttpAnswer) :
    (400 ≤ a.status ∧ a.status < 600) ∧ a.success? = .error (.status a.status) ∨
      ¬(400 ≤ a.status ∧ a.status < 600) ∧ a.success? = .ok a := by
  rw [success?]
  split
  · rename_i hstatus
    exact .inl ⟨hstatus, rfl⟩
  · rename_i hstatus
    exact .inr ⟨hstatus, rfl⟩

namespace Resource

variable {α : Type} {r : Resource} {limit : ℕ} {d : Json.Decoder α} {guard : α → Bool}

/-! ### One resource -/

lemma verify_eq_ok_iff {bs : List UInt8} {v : α} :
    r.verify d guard bs = .ok v ↔
      Sha256.digest bs = r.digest ∧ Json.decode d bs = .ok v ∧ guard v = true := by
  rw [verify]
  split
  · rename_i hdigest
    exact ⟨fun h => (by cases h), fun h => absurd h.1 hdigest⟩
  · rename_i hdigest
    rw [ne_eq, not_not] at hdigest
    split
    · rename_i f hdecode
      exact ⟨fun h => (by cases h), fun h => by simp [hdecode] at h⟩
    · rename_i w hdecode
      rw [hdecode, Except.ok.injEq]
      split
      · rename_i hguard
        rw [Except.ok.injEq]
        exact ⟨fun h => ⟨hdigest, h, h ▸ hguard⟩, fun h => h.2.1⟩
      · rename_i hguard
        exact ⟨fun h => (by cases h), fun h => absurd (h.2.1 ▸ h.2.2) hguard⟩

/-- A resource is had from an answer if the server does not say that something went wrong, the body comes
through within the limit, its digest is the one that the chain holds, it decodes, and the guard agrees. -/
theorem ofAnswer_eq_ok_iff {answer : Except HttpFault HttpAnswer} {v : α} :
    r.ofAnswer limit d guard answer = .ok v ↔
      ∃ a, answer = .ok a ∧ ¬(400 ≤ a.status ∧ a.status < 600) ∧ a.body.broken = false ∧
        a.body.chunks.flatten.length ≤ limit ∧ Sha256.digest a.body.chunks.flatten = r.digest ∧
        Json.decode d a.body.chunks.flatten = .ok v ∧ guard v = true := by
  cases answer with
  | error f => simp [ofAnswer]
  | ok a =>
      rcases a.success?_cases with ⟨hstatus, hrefused⟩ | ⟨hstatus, htaken⟩
      · have herror : r.ofAnswer limit d guard (.ok a) = .error (.http (.status a.status)) := by
          simp only [ofAnswer, hrefused]
        rw [herror]
        refine ⟨fun h => (by cases h), ?_⟩
        rintro ⟨b, hb, hfine, -⟩
        cases hb
        exact absurd hstatus hfine
      · simp only [ofAnswer, htaken, Except.ok.injEq, exists_eq_left']
        have hread := @HttpBody.readLimited_eq_ok_iff a.body r.url limit
        cases hbody : a.body.readLimited r.url limit with
        | error e =>
            refine ⟨fun h => (by cases h), ?_⟩
            rintro ⟨-, hwhole, hlimit, -⟩
            rw [hread.mpr ⟨hwhole, hlimit, rfl⟩] at hbody
            cases hbody
        | ok bs =>
            obtain ⟨hwhole, hlimit, rfl⟩ := hread.mp hbody
            have hverify := @verify_eq_ok_iff _ r d guard a.body.chunks.flatten v
            cases hbytes : r.verify d guard a.body.chunks.flatten with
            | error f =>
                simp only [hbytes] at hverify ⊢
                refine ⟨fun h => (by cases h), ?_⟩
                rintro ⟨-, -, -, h⟩
                cases hverify.mpr h
            | ok w =>
                simp only [hbytes, Except.ok.injEq] at hverify ⊢
                rw [hverify]
                exact ⟨fun h => ⟨hstatus, hwhole, hlimit, h⟩, fun h => h.2.2.2⟩

end Resource

/-! ### One fetch, step by step -/

namespace FetchPhase

variable {α : Type}

/-- The outcome that a fetch is bound for. -/
def comesTo (r : Resource) (limit : ℕ) (d : Json.Decoder α) (guard : α → Bool) :
    FetchPhase α → Except ClientError α
  | .asking answer => r.ofAnswer limit d guard answer
  | .reading acc rest =>
    match HttpBody.readChunks r.url limit rest.broken acc rest.chunks with
    | .error e => .error e
    | .ok bs =>
      match r.verify d guard bs with
      | .error f => .error (.resource f)
      | .ok v => .ok v
  | .done o => o

variable (r : Resource) (limit : ℕ) (d : Json.Decoder α) (guard : α → Bool)

/-- What a fetch is bound for does not change while it goes on. -/
lemma comesTo_goOn (p : FetchPhase α) :
    (r.goOn limit d guard p).comesTo r limit d guard = p.comesTo r limit d guard := by
  cases p with
  | done o => rfl
  | asking answer =>
      cases answer with
      | error f => rfl
      | ok a =>
          rcases a.success?_cases with ⟨-, h⟩ | ⟨-, h⟩
          · simp only [Resource.goOn, comesTo, Resource.ofAnswer, h]
          · simp only [Resource.goOn, comesTo, Resource.ofAnswer, h]
            rfl
  | reading acc rest =>
      obtain ⟨chunks, broken⟩ := rest
      cases chunks with
      | cons c cs =>
          rw [Resource.goOn, comesTo, HttpBody.readChunks]
          split <;> rfl
      | nil =>
          cases broken with
          | true => rfl
          | false =>
              rw [Resource.goOn, comesTo, HttpBody.readChunks]
              simp only [Bool.false_eq_true, if_false]
              cases r.verify d guard acc <;> rfl

/-- A fetch that goes on is nearer to its end. -/
lemma remaining_goOn (p : FetchPhase α) :
    (r.goOn limit d guard p).remaining ≤ p.remaining - 1 := by
  cases p with
  | done o => exact le_rfl
  | asking answer =>
      cases answer with
      | error f => exact Nat.zero_le _
      | ok a =>
          rcases a.success?_cases with ⟨-, h⟩ | ⟨-, h⟩
          · simp only [Resource.goOn, h]
            exact Nat.zero_le _
          · simp only [Resource.goOn, h]
            exact le_rfl
  | reading acc rest =>
      obtain ⟨chunks, broken⟩ := rest
      cases chunks with
      | cons c cs =>
          rw [Resource.goOn]
          split
          · exact Nat.zero_le _
          · exact le_rfl
      | nil =>
          cases broken with
          | true => exact Nat.zero_le _
          | false =>
              rw [Resource.goOn]
              split <;> exact Nat.zero_le _

lemma comesTo_iterate (n : ℕ) (p : FetchPhase α) :
    ((r.goOn limit d guard)^[n] p).comesTo r limit d guard = p.comesTo r limit d guard := by
  induction n generalizing p with
  | zero => rfl
  | succ n ih => rw [Function.iterate_succ_apply, ih, comesTo_goOn]

lemma remaining_iterate (n : ℕ) (p : FetchPhase α) :
    ((r.goOn limit d guard)^[n] p).remaining ≤ p.remaining - n := by
  induction n generalizing p with
  | zero => exact le_rfl
  | succ n ih =>
      have hfirst := remaining_goOn r limit d guard p
      have hrest := ih (r.goOn limit d guard p)
      rw [Function.iterate_succ_apply]
      omega

/-- A fetch that cannot go on is over, with the outcome that it was bound for. -/
lemma outcome?_of_remaining {p : FetchPhase α} (h : p.remaining = 0) :
    p.outcome? = some (p.comesTo r limit d guard) := by
  cases p with
  | done o => rfl
  | asking answer => cases answer <;> cases h
  | reading acc rest => cases h

lemma comesTo_of_outcome? {p : FetchPhase α} {o : Except ClientError α} (h : p.outcome? = some o) :
    p.comesTo r limit d guard = o := by
  cases p with
  | done o' => exact Option.some.inj h
  | asking answer => cases h
  | reading acc rest => cases h

end FetchPhase

/-! ### Many fetches -/

namespace CandidateFetch

variable {limit : ℕ}

/-- The outcome that the fetch of a candidate's description is bound for. -/
def comesTo (limit : ℕ) (f : CandidateFetch) : Except ClientError CandidateDetails :=
  f.phase.comesTo f.resource limit CandidateDetails.ofJson CandidateDetails.isWellFormed

lemma goOn_iterate (n : ℕ) (f : CandidateFetch) :
    (goOn limit)^[n] f = ⟨f.resource, (f.resource.goOn limit CandidateDetails.ofJson
      CandidateDetails.isWellFormed)^[n] f.phase⟩ := by
  induction n generalizing f with
  | zero => rfl
  | succ n ih => rw [Function.iterate_succ_apply, ih, Function.iterate_succ_apply, goOn]

lemma comesTo_iterate (n : ℕ) (f : CandidateFetch) :
    ((goOn limit)^[n] f).comesTo limit = f.comesTo limit := by
  rw [goOn_iterate, comesTo, FetchPhase.comesTo_iterate, comesTo]

lemma remaining_iterate (n : ℕ) (f : CandidateFetch) :
    ((goOn limit)^[n] f).phase.remaining ≤ f.phase.remaining - n := by
  rw [goOn_iterate]
  exact FetchPhase.remaining_iterate ..

end CandidateFetch

namespace Gathering

variable {limit : ℕ} {rs : List Resource} {answers : ℕ → Except HttpFault HttpAnswer}
  {schedule : List ℕ}

/-- Wherever the others are, a fetch has gone on as often as it was its turn. -/
lemma fetches_run (g : Gathering) (schedule : List ℕ) :
    (g.run limit schedule).fetches =
      g.fetches.mapIdx fun i f => (CandidateFetch.goOn limit)^[schedule.count i] f := by
  induction schedule generalizing g with
  | nil =>
      refine List.ext_getElem? fun i => ?_
      simp [run]
  | cons j schedule ih =>
      have hstep : g.run limit (j :: schedule) = (goOn limit g j).run limit schedule := rfl
      rw [hstep, ih]
      refine List.ext_getElem? fun i => ?_
      rw [List.getElem?_mapIdx, List.getElem?_mapIdx, goOn, List.getElem?_modify,
        Option.map_eq_map, Option.map_map]
      congr 1
      funext f
      rw [Function.comp_apply, List.count_cons]
      by_cases hij : j = i
      · simp [hij]
      · simp [hij]

/-- What the descriptions of candidates come to, by what comes back for each. -/
def descriptions (limit : ℕ) (rs : List Resource) (answers : ℕ → Except HttpFault HttpAnswer) :
    List (Except ClientError CandidateDetails) :=
  rs.mapIdx fun i r =>
    r.ofAnswer limit CandidateDetails.ofJson CandidateDetails.isWellFormed (answers i)

/-- Whatever the schedule is, the fetches are bound for the same outcomes. -/
lemma map_comesTo_run (schedule : List ℕ) :
    ((start rs answers).run limit schedule).fetches.map (CandidateFetch.comesTo limit) =
      descriptions limit rs answers := by
  refine List.ext_getElem? fun i => ?_
  rw [fetches_run, start, descriptions, List.getElem?_map, List.getElem?_mapIdx, List.getElem?_mapIdx,
    List.getElem?_mapIdx, Option.map_map, Option.map_map]
  congr 1
  funext r
  exact CandidateFetch.comesTo_iterate ..

lemma eq_of_outcomes? {fs : List CandidateFetch} {os : List (Except ClientError CandidateDetails)}
    (h : outcomes? fs = some os) : os = fs.map (CandidateFetch.comesTo limit) := by
  induction fs generalizing os with
  | nil =>
      cases h
      rfl
  | cons f fs ih =>
      rw [outcomes?] at h
      split at h
      · rename_i o os' ho hos'
        cases h
        rw [List.map_cons, ← ih hos', CandidateFetch.comesTo, FetchPhase.comesTo_of_outcome? _ _ _ _ ho]
      · cases h

lemma outcomes?_of_remaining {fs : List CandidateFetch} (h : ∀ f ∈ fs, f.phase.remaining = 0) :
    outcomes? fs = some (fs.map (CandidateFetch.comesTo limit)) := by
  induction fs with
  | nil => rfl
  | cons f fs ih =>
      have hfirst := FetchPhase.outcome?_of_remaining f.resource limit CandidateDetails.ofJson
        CandidateDetails.isWellFormed (h f List.mem_cons_self)
      rw [outcomes?, hfirst, ih fun f' hf' => h f' (List.mem_cons_of_mem f hf')]
      rfl

/-- Once all fetches are over, the candidates that are listed are chosen by what has come back. -/
theorem choose_of_candidates?_run {listed : List Candidate}
    (h : ((start rs answers).run limit schedule).candidates? = some listed) :
    listed = Candidate.choose (descriptions limit rs answers) := by
  obtain ⟨os, hos, rfl⟩ := Option.map_eq_some_iff.mp h
  have hall : os = descriptions limit rs answers := by
    calc os = ((start rs answers).run limit schedule).fetches.map (CandidateFetch.comesTo limit) :=
          eq_of_outcomes? hos
      _ = descriptions limit rs answers := map_comesTo_run schedule
  rw [hall]

/-- All fetches are over once each of them has gone on as often as it can. -/
theorem candidates?_run
    (h : ∀ i < rs.length, (FetchPhase.asking (answers i) : FetchPhase CandidateDetails).remaining ≤
      schedule.count i) :
    ((start rs answers).run limit schedule).candidates? =
      some (Candidate.choose (descriptions limit rs answers)) := by
  rw [candidates?, @outcomes?_of_remaining limit, map_comesTo_run, Option.map_some]
  intro f hf
  obtain ⟨i, hi⟩ := List.mem_iff_getElem?.mp hf
  rw [fetches_run, start, List.getElem?_mapIdx, List.getElem?_mapIdx, Option.map_map] at hi
  obtain ⟨r, hr, rfl⟩ := Option.map_eq_some_iff.mp hi
  have hlt : i < rs.length := (List.getElem?_eq_some_iff.mp hr).1
  have hremaining := @CandidateFetch.remaining_iterate limit (schedule.count i)
    ⟨r, .asking (answers i)⟩
  have henough : (⟨r, .asking (answers i)⟩ : CandidateFetch).phase.remaining ≤ schedule.count i :=
    h i hlt
  simp only [Function.comp_apply]
  omega

end Gathering

/-! ### One after the other -/

/-- Asked for one after the other, each description comes to what its own answer says. -/
lemma Candidate.fetchDetails_eq {σ : Type} (ex : Exchange σ) (limit : ℕ) (rs : List Resource) (s : σ) :
    (fetchDetails ex limit rs s).1 = List.zipWith
      (fun r a => r.ofAnswer limit CandidateDetails.ofJson CandidateDetails.isWellFormed a) rs
      (ex.askAll rs s).1 := by
  induction rs generalizing s with
  | nil => rfl
  | cons r rs ih =>
      have hrest := ih (ex.ask ⟨.get, r.url, none⟩ s).2
      exact congrArg _ hrest

/-- Whoever asks for the descriptions one after the other, and gets the same answers, lists the same
candidates. -/
theorem Candidate.fetchAll_eq {σ : Type} (ex : Exchange σ) (limit : ℕ) (c : ElectionConfig) (s : σ)
    {answers : ℕ → Except HttpFault HttpAnswer}
    (h : (ex.askAll c.candidates s).1 = (List.range c.candidates.length).map answers) :
    (fetchAll ex limit c s).1 = choose (Gathering.descriptions limit c.candidates answers) := by
  have hsame : List.zipWith
      (fun r a => r.ofAnswer limit CandidateDetails.ofJson CandidateDetails.isWellFormed a)
      c.candidates ((List.range c.candidates.length).map answers) =
        Gathering.descriptions limit c.candidates answers := by
    refine List.ext_getElem? fun i => ?_
    rw [Gathering.descriptions, List.getElem?_zipWith, List.getElem?_mapIdx, List.getElem?_map]
    by_cases hi : i < c.candidates.length
    · simp [hi]
    · simp [hi]
  calc (fetchAll ex limit c s).1
      = choose (fetchDetails ex limit c.candidates s).1 := rfl
    _ = choose (Gathering.descriptions limit c.candidates answers) := by
        rw [fetchDetails_eq, h, hsame]

end ChainElection
