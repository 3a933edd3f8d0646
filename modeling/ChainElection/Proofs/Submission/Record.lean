import Mathlib.Tactic
import ChainElection.Index.Row
import ChainElection.Proofs.Submission.Text
import ChainElection.Proofs.Time.Stored

/-!
Records as texts and as rows.

* `SubmissionRecord.settled` is what a record looks like when it is written.
  `SubmissionRecord.ofJson_toJson`: this is decoded from its JSON value.
  `readsAs_option`: so is one that may be missing. `finds_ofJson`: the times of
  all that is decoded are regular.
* `SubmissionRow.record_ofRecord`: what a row says that was written for a
  record: the same hash, account and verdict.
* `SubmissionRow.record_ofRecord_eq`: what it looks like is read back, cut
  down to milliseconds, if its year has four digits. `records_map_ofRecord`: of
  several rows, one that is not read back spoils all.
-/

namespace ChainElection

namespace SubmissionRecord

/-- The record as it looks when it is written. -/
def settled (r : SubmissionRecord) : SubmissionRecord := { r with time := r.time.settled }

/-- A record looks like itself only if its time is regular. -/
lemma settled_eq_self_iff {r : SubmissionRecord} : r.settled = r ↔ r.time.IsRegular := by
  rw [← Instant.settled_eq_self_iff]
  exact ⟨congrArg time, fun h => by rw [settled, h]⟩

lemma settled_of_isRegular {r : SubmissionRecord} (h : r.time.IsRegular) : r.settled = r :=
  settled_eq_self_iff.mpr h

/-- A list looks like itself only if all its times are regular. -/
lemma map_settled_eq_self_iff {rs : List SubmissionRecord} :
    rs.map settled = rs ↔ ∀ r ∈ rs, r.time.IsRegular :=
  map_eq_self_iff.trans (forall₂_congr fun _ _ => settled_eq_self_iff)

lemma map_settled {rs : List SubmissionRecord} (h : ∀ r ∈ rs, r.time.IsRegular) : rs.map settled = rs :=
  map_settled_eq_self_iff.mpr h

/-- What a record looks like is decoded from its JSON value. -/
@[simp] theorem ofJson_toJson (r : SubmissionRecord) : ofJson r.toJson = .ok r.settled := by
  have hhash (d : Draft) (h : d.hash = none) :
      Draft.step "transactionHash" r.hash.toJson d = .ok { d with hash := some r.hash } := by
    rw [Draft.step, if_pos rfl, h, Json.fill_none r.hash.ofJson_toJson]
    rfl
  have haccount (d : Draft) (h : d.account = none) :
      Draft.step "account" r.account.toJson d = .ok { d with account := some r.account } := by
    rw [Draft.step, if_neg (by decide), if_pos rfl, h, Json.fill_none r.account.ofJson_toJson]
    rfl
  have htime (d : Draft) (h : d.time = none) :
      Draft.step "timestamp" r.time.toJson d = .ok { d with time := some r.time.settled } := by
    rw [Draft.step, if_neg (by decide), if_neg (by decide), if_pos rfl, h,
      Json.fill_none r.time.ofJson_toJson]
    rfl
  have hverified (d : Draft) (h : d.verified = none) :
      Draft.step "verified" (.bool r.verified) d = .ok { d with verified := some r.verified } := by
    rw [Draft.step, if_neg (by decide), if_neg (by decide), if_neg (by decide), if_pos rfl, h,
      Json.fill_none (a := r.verified) rfl]
    rfl
  have hdraft : Json.foldMembers Draft.step ⟨none, none, none, none⟩
      [(Json.escape "transactionHash", r.hash.toJson), (Json.escape "account", r.account.toJson),
        (Json.escape "timestamp", r.time.toJson), (Json.escape "verified", .bool r.verified)] =
      .ok ⟨some r.hash, some r.account, some r.time.settled, some r.verified⟩ :=
    (Json.foldMembers_cons (hhash _ rfl) _).trans <| (Json.foldMembers_cons (haccount _ rfl) _).trans <|
      (Json.foldMembers_cons (htime _ rfl) _).trans (Json.foldMembers_cons (hverified _ rfl) _)
  rw [toJson, Json.ofMembers, ofJson]
  simp only [List.map_cons, List.map_nil, hdraft]
  rfl

lemma isPlain_toJson (r : SubmissionRecord) : Json.IsPlain r.toJson := by
  refine Json.isPlain_ofMembers fun m hm => ?_
  simp only [List.mem_cons, List.not_mem_nil, or_false] at hm
  rcases hm with rfl | rfl | rfl | rfl
  · exact Json.isPlain_ofText _
  · exact Json.isPlain_ofText _
  · exact Json.isPlain_ofText _
  · exact trivial

lemma readsAs : Json.ReadsAs ofJson toJson settled := ⟨isPlain_toJson, ofJson_toJson⟩

/-- What a record that may be missing looks like is read back. -/
lemma readsAs_option :
    Json.ReadsAs (Json.asOption ofJson) (Json.ofOption toJson) (Option.map settled) :=
  readsAs.option fun _ => nofun

/-- The members met so far hold no time that is not regular. -/
lemma Draft.step_regular {key : String} {j : Json} {d d' : Draft} (h : Draft.step key j d = .ok d')
    (hd : ∀ t ∈ d.time, t.IsRegular) : ∀ t ∈ d'.time, t.IsRegular := by
  rw [Draft.step] at h
  split_ifs at h
  · obtain ⟨hash, -, rfl⟩ := map_eq_ok_iff.mp h
    exact hd
  · obtain ⟨account, -, rfl⟩ := map_eq_ok_iff.mp h
    exact hd
  · obtain ⟨time, hfill, rfl⟩ := map_eq_ok_iff.mp h
    exact Instant.finds_ofJson.fill hfill
  · obtain ⟨verified, -, rfl⟩ := map_eq_ok_iff.mp h
    exact hd
  · exact Json.skip_eq_ok h ▸ hd

/-- The times of all records that are decoded are regular. -/
lemma finds_ofJson : Json.Finds ofJson fun r => r.time.IsRegular := by
  intro j r h
  cases j with
  | object ms =>
      obtain ⟨d, hd, h⟩ := bind_eq_ok_iff.mp h
      obtain ⟨hash, -, h⟩ := bind_eq_ok_iff.mp h
      obtain ⟨account, -, h⟩ := bind_eq_ok_iff.mp h
      obtain ⟨time, htime, h⟩ := bind_eq_ok_iff.mp h
      obtain ⟨verified, -, h⟩ := bind_eq_ok_iff.mp h
      cases h
      exact Json.foldMembers_induction (P := fun d => ∀ t ∈ d.time, t.IsRegular)
        Draft.step_regular hd (by simp) time (Json.present_eq_ok htime)
  | array js =>
      obtain ⟨⟨hash, js⟩, -, h⟩ := bind_eq_ok_iff.mp h
      obtain ⟨⟨account, js⟩, -, h⟩ := bind_eq_ok_iff.mp h
      obtain ⟨⟨time, js⟩, htime, h⟩ := bind_eq_ok_iff.mp h
      obtain ⟨⟨verified, js⟩, -, h⟩ := bind_eq_ok_iff.mp h
      obtain ⟨-, -, h⟩ := bind_eq_ok_iff.mp h
      cases h
      exact Instant.finds_ofJson.next htime
  | _ => cases h

/-- What the index keeps of a record: its time is cut down to milliseconds. -/
def stored (r : SubmissionRecord) : SubmissionRecord := { r with time := r.time.toMillisecond }

end SubmissionRecord

/-! ### Rows -/

namespace SubmissionRow

/-- What a record looks like is read back from its row if its year has four digits. -/
theorem record_ofRecord_eq (r : SubmissionRecord) : (ofRecord r).record =
    if r.time.HasPlainYear then .ok r.settled.stored else .error (.time r.time.rowText) := by
  unfold record ofRecord
  simp only [TransactionHash.read_text, Account.read_text, Instant.readStrict_rowText]
  by_cases hplain : r.time.HasPlainYear
  · simp only [if_pos hplain]
    rfl
  · simp only [if_neg hplain]

/-- The time of all that a row says is regular. -/
lemma isRegular_of_record {row : SubmissionRow} {r : SubmissionRecord} (h : row.record = .ok r) :
    r.time.IsRegular := by
  rw [record] at h
  split at h
  · cases h
  split at h
  · cases h
  split at h
  · cases h
  · rename_i hread
    cases h
    exact Instant.IsRegular.of_readStrict hread

/-- What a row says that was written for a record, as far as its time can be read. -/
lemma record_ofRecord {r r' : SubmissionRecord} (h : (ofRecord r).record = .ok r') :
    r'.hash = r.hash ∧ r'.account = r.account ∧ r'.verified = r.verified := by
  rw [record_ofRecord_eq] at h
  split at h
  · cases h
    exact ⟨rfl, rfl, rfl⟩
  · cases h

/-- Rows of regular records stand for such records. Records that differ within a millisecond have the same
row; a given one can be chosen for its row. -/
lemma exists_map_ofRecord {rows : List SubmissionRow} {x : SubmissionRecord} (hxreg : x.time.IsRegular)
    (h : ∀ row ∈ rows, ∃ r, r.time.IsRegular ∧ ofRecord r = row) :
    ∃ rs : List SubmissionRecord, rs.map ofRecord = rows ∧ (∀ r ∈ rs, r.time.IsRegular) ∧
      (ofRecord x ∈ rows → x ∈ rs) := by
  induction rows with
  | nil => exact ⟨[], rfl, by simp, by simp⟩
  | cons row rows ih =>
      obtain ⟨⟨r, hregular, rfl⟩, hrest⟩ := List.forall_mem_cons.mp h
      obtain ⟨rs, rfl, hall, hx⟩ := ih hrest
      by_cases heq : ofRecord r = ofRecord x
      · exact ⟨x :: rs, by rw [List.map_cons, ← heq], List.forall_mem_cons.mpr ⟨hxreg, hall⟩,
          fun _ => List.mem_cons_self⟩
      · refine ⟨r :: rs, rfl, List.forall_mem_cons.mpr ⟨hregular, hall⟩,
          fun hmem => List.mem_cons_of_mem r (hx ?_)⟩
        exact (List.mem_cons.mp hmem).resolve_left (Ne.symm heq)

lemma records_cons (row : SubmissionRow) (rows : List SubmissionRow) :
    records (row :: rows) = match row.record with
      | .error f => .error f
      | .ok r => (records rows).map (r :: ·) := by
  rfl

/-- Regular records are read back from their rows if the years of all have four digits, and else none are. -/
theorem records_map_ofRecord {rs : List SubmissionRecord} (hrs : ∀ r ∈ rs, r.time.IsRegular) :
    ((∀ r ∈ rs, r.time.HasPlainYear) ∧
      records (rs.map ofRecord) = .ok (rs.map SubmissionRecord.stored)) ∨
    ((∃ r ∈ rs, ¬ r.time.HasPlainYear) ∧ ∃ f, records (rs.map ofRecord) = .error f) := by
  induction rs with
  | nil => exact .inl ⟨by simp, rfl⟩
  | cons r rs ih =>
      obtain ⟨hregular, hrest⟩ := List.forall_mem_cons.mp hrs
      rw [List.map_cons, records_cons, record_ofRecord_eq, SubmissionRecord.settled_of_isRegular hregular]
      by_cases hplain : r.time.HasPlainYear
      · simp only [if_pos hplain]
        rcases ih hrest with ⟨hall, hrest⟩ | ⟨⟨r', hr', hnot⟩, f, hrest⟩
        · exact .inl ⟨List.forall_mem_cons.mpr ⟨hplain, hall⟩, by rw [hrest]; rfl⟩
        · exact .inr ⟨⟨r', List.mem_cons_of_mem r hr', hnot⟩, f, by rw [hrest]; rfl⟩
      · simp only [if_neg hplain]
        exact .inr ⟨⟨r, List.mem_cons_self, hplain⟩, _, rfl⟩

end SubmissionRow

end ChainElection
