import Mathlib.Tactic
import ChainElection.Chain.Transaction
import ChainElection.Proofs.Election.Listing
import ChainElection.Proofs.Submission.Record

/-!
What the election's programs tell each other, read back.

* `Json.tagged_ofMembers`: a tag in front of texts is split off again.
* `TransactionOutcome.readsBack`: so outcomes are read back.
* `exchanged_values_read_back`: and so is all else that is exchanged as JSON, as
  far as times are regular. `leap_second_in_minute_reads_back_later`: else the
  time is another one.
-/

namespace ChainElection

/-! ### Tags -/

namespace Json

lemma areStorableMembers_ofTexts (depth : ℕ) (ms : List (String × String)) :
    areStorableMembers depth (ms.map fun m => (escape m.1, ofText m.2)) = true := by
  induction ms with
  | nil => rw [List.map_nil, areStorableMembers]
  | cons m r ih =>
      rw [List.map_cons, areStorableMembers, ih, ofText, isStorable, text?_escape, text?_escape]
      rfl

lemma hasKey_escape (tag key : String) (j : Json) : hasKey tag (escape key, j) = (key == tag) := by
  rw [hasKey, text?_escape]
  rfl

/-- A tag in front of other texts is split off, and the others are left. -/
lemma tagged_ofMembers {tag : String} (t : String) (ms : List (String × String))
    (hne : ∀ m ∈ ms, m.1 ≠ tag) :
    tagged tag (ofMembers ((tag, ofText t) :: ms.map fun m => (m.1, ofText m.2))) =
      .ok (t, ofMembers (ms.map fun m => (m.1, ofText m.2))) := by
  let others := ms.map fun m => (escape m.1, ofText m.2)
  have hmembers : (ms.map fun m => (m.1, ofText m.2)).map (fun m => (escape m.1, m.2)) = others :=
    List.map_map
  have hstorable : isStorable storableDepth (.object ((escape tag, ofText t) :: others)) = true :=
    areStorableMembers_ofTexts (storableDepth - 1) ((tag, t) :: ms)
  have htag : hasKey tag (escape tag, ofText t) = true := by
    rw [hasKey_escape, beq_self_eq_true]
  have hothers : ∀ m ∈ others, hasKey tag m = false := by
    intro m hm
    obtain ⟨x, hx, rfl⟩ := List.mem_map.mp hm
    rw [hasKey_escape, beq_eq_false_iff_ne]
    exact hne x hx
  have hfound : ((escape tag, ofText t) :: others).filter (hasKey tag) = [(escape tag, ofText t)] := by
    rw [List.filter_cons_of_pos htag, List.filter_eq_nil_iff.mpr fun m hm => by simp [hothers m hm]]
  have hleft : ((escape tag, ofText t) :: others).filter (fun m => !hasKey tag m) = others := by
    rw [List.filter_cons_of_neg (by simp [htag]),
      List.filter_eq_self.mpr fun m hm => by simp [hothers m hm]]
  rw [ofMembers, ofMembers, List.map_cons, hmembers, tagged, if_pos hstorable]
  simp only [hfound, asText_ofText, hleft]
  rfl

end Json

/-! ### Outcomes -/

namespace TransactionOutcome

lemma reasonOfJson_ofMembers (reason : String) :
    reasonOfJson (Json.ofMembers [("reason", Json.ofText reason)]) = .ok reason := by
  have hslot : Json.foldMembers (σ := Option String) (fun key j slot =>
      if key = "reason" then Json.fill Json.asText slot j else Json.skip j slot) none
      [(Json.escape "reason", Json.ofText reason)] = .ok (some reason) :=
    Json.foldMembers_cons (by rw [if_pos rfl, Json.fill_none (Json.asText_ofText reason)]) _
  simp only [Json.ofMembers, List.map_cons, List.map_nil, reasonOfJson, hslot]
  rfl

/-- An outcome is decoded from its JSON value. -/
lemma ofJson_toJson (o : TransactionOutcome) : ofJson o.toJson = .ok o := by
  cases o with
  | success =>
      have htag : Json.tagged "outcome" (toJson .success) = .ok ("success", Json.ofMembers []) :=
        Json.tagged_ofMembers "success" [] (by simp)
      rw [ofJson, htag]
      rfl
  | failure reason =>
      have htag : Json.tagged "outcome" (toJson (.failure reason)) =
          .ok ("failure", Json.ofMembers [("reason", Json.ofText reason)]) :=
        Json.tagged_ofMembers "failure" [("reason", reason)] (by simp)
      have hfailure : ofJson (toJson (.failure reason)) =
          (reasonOfJson (Json.ofMembers [("reason", Json.ofText reason)])).map .failure := by
        rw [ofJson, htag]
        rfl
      rw [hfailure, reasonOfJson_ofMembers]
      rfl

lemma isPlain_toJson (o : TransactionOutcome) : Json.IsPlain o.toJson := by
  cases o with
  | success => exact Json.isPlain_ofMembers (by simp [Json.isPlain_ofText])
  | failure reason => exact Json.isPlain_ofMembers (by simp [Json.isPlain_ofText])

theorem readsBack : Json.ReadsBack ofJson toJson := ⟨isPlain_toJson, ofJson_toJson⟩

end TransactionOutcome

/-! ### All that is exchanged -/

/-- Records, those that may be missing and lists of them are had back from their JSON texts as they look. They
are had back just as they were if their times are regular, and only then. Outcomes and descriptions of
candidates always are, whatever characters are in their texts. -/
theorem exchanged_values_read_back :
    (∀ r : SubmissionRecord,
      Json.decodeText SubmissionRecord.ofJson r.toJson.text = .ok r.settled ∧
      (Json.decodeText SubmissionRecord.ofJson r.toJson.text = .ok r ↔ r.time.IsRegular)) ∧
    (∀ r : Option SubmissionRecord, Json.decodeText (Json.asOption SubmissionRecord.ofJson)
      (Json.ofOption SubmissionRecord.toJson r).text = .ok r ↔ ∀ x ∈ r, x.time.IsRegular) ∧
    (∀ rs : List SubmissionRecord, Json.decodeText (Json.asList SubmissionRecord.ofJson)
      (Json.array (rs.map SubmissionRecord.toJson)).text = .ok rs ↔ ∀ r ∈ rs, r.time.IsRegular) ∧
    (∀ o : TransactionOutcome, Json.decodeText TransactionOutcome.ofJson o.toJson.text = .ok o) ∧
    ∀ d : CandidateDetails, Json.decodeText CandidateDetails.ofJson d.toJson.text = .ok d := by
  refine ⟨fun r => ⟨SubmissionRecord.readsAs.text r, ?_⟩, fun r => ?_, fun rs => ?_,
    TransactionOutcome.readsBack.text, CandidateDetails.readsBack.text⟩
  · rw [SubmissionRecord.readsAs.text, Except.ok.injEq, SubmissionRecord.settled_eq_self_iff]
  · rw [SubmissionRecord.readsAs_option.text, Except.ok.injEq]
    cases r with
    | none => simp
    | some x => simp [SubmissionRecord.settled_eq_self_iff]
  · rw [SubmissionRecord.readsAs.list.text, Except.ok.injEq, SubmissionRecord.map_settled_eq_self_iff]

/-- A record of a leap second behind the second 4 is had back as one of the second 5. -/
theorem leap_second_in_minute_reads_back_later :
    let r : SubmissionRecord :=
      ⟨⟨.replicate 3⟩, ⟨.replicate 1⟩,
        ⟨⟨2024, 1, 1, by decide, by decide⟩, 12, 0, 4, 1333333333, by decide, by decide, by decide,
          by decide⟩, true⟩
    let later : SubmissionRecord :=
      ⟨⟨.replicate 3⟩, ⟨.replicate 1⟩,
        ⟨⟨2024, 1, 1, by decide, by decide⟩, 12, 0, 5, 333333333, by decide, by decide, by decide,
          by decide⟩, true⟩
    Json.decodeText SubmissionRecord.ofJson r.toJson.text = .ok later ∧ later ≠ r := by
  intro r later
  have hlater : r.settled = later := by decide
  exact ⟨hlater ▸ SubmissionRecord.readsAs.text r, by decide⟩

end ChainElection
