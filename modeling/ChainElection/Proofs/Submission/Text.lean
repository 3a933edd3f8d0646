import Mathlib.Tactic
import ChainElection.Submission.Store
import ChainElection.Proofs.Json.Decoder
import ChainElection.Proofs.Json.Reader
import ChainElection.Proofs.Bytes.Hex
import ChainElection.Proofs.Bytes.Base58
import ChainElection.Proofs.Time.Instant

/-!
Submissions as texts, read back.

* `Submission.settled` is what a submission looks like when it is written: its
  time is the regular one. `Submission.ofJson_toJson`: this is decoded from its
  JSON value. `Submission.readList_listText`: so is a list of them from its text.
* `Submission.isRegular_of_readList`: the times of all that is read are regular.
* `storageKey_injective`: no two accounts share a key.
-/

namespace ChainElection

/-! ### The parts of submissions and records -/

@[simp] lemma TransactionHash.ofJson_toJson (h : TransactionHash) : ofJson h.toJson = .ok h := by
  have hread : (read h.text).toOption = some h := by
    rw [read_text]
    rfl
  exact Json.asParsed_ofText hread

@[simp] lemma Account.ofJson_toJson (a : Account) : ofJson a.toJson = .ok a := by
  have hread : (read a.text).toOption = some a := by
    rw [read_text]
    rfl
  exact Json.asParsed_ofText hread

@[simp] lemma Instant.ofJson_toJson (t : Instant) : ofJson t.toJson = .ok t.settled :=
  Json.asParsed_ofText t.readLenient_text

lemma Instant.finds_ofJson : Json.Finds ofJson IsRegular := Json.Finds.asParsed .of_readLenient

lemma SubmissionStatus.read?_text (s : SubmissionStatus) : read? s.text = some s := by
  cases s <;> decide

@[simp] lemma SubmissionStatus.ofJson_toJson (s : SubmissionStatus) : ofJson s.toJson = .ok s :=
  Json.asParsed_ofText s.read?_text

/-! ### Submissions -/

/-- A map leaves a list as it is just if it leaves all members as they are. -/
lemma map_eq_self_iff {α : Type} {f : α → α} {l : List α} : l.map f = l ↔ ∀ x ∈ l, f x = x := by
  conv_lhs => rhs; rw [← List.map_id l]
  exact List.map_inj_left

namespace Submission

/-- The submission as it looks when it is written. -/
def settled (s : Submission) : Submission := { s with submittedAt := s.submittedAt.settled }

/-- A submission looks like itself only if its time is regular. -/
lemma settled_eq_self_iff {s : Submission} : s.settled = s ↔ s.submittedAt.IsRegular := by
  rw [← Instant.settled_eq_self_iff]
  exact ⟨congrArg submittedAt, fun h => by rw [settled, h]⟩

/-- A list looks like itself only if all its times are regular. -/
lemma map_settled_eq_self_iff {ss : List Submission} :
    ss.map settled = ss ↔ ∀ s ∈ ss, s.submittedAt.IsRegular :=
  map_eq_self_iff.trans (forall₂_congr fun _ _ => settled_eq_self_iff)

lemma map_settled {ss : List Submission} (h : ∀ s ∈ ss, s.submittedAt.IsRegular) : ss.map settled = ss :=
  map_settled_eq_self_iff.mpr h

/-- What a submission looks like is decoded from its JSON value. -/
@[simp] theorem ofJson_toJson (s : Submission) : ofJson s.toJson = .ok s.settled := by
  have hdraft : Json.foldMembers Draft.step ⟨none, none, none⟩
      [(Json.escape "transactionHex", s.hash.toJson), (Json.escape "status", s.status.toJson),
        (Json.escape "submittedAtISO", s.submittedAt.toJson)] =
      .ok ⟨some s.hash, some s.status, some s.submittedAt.settled⟩ := by
    rw [Json.foldMembers_cons (t := ⟨some s.hash, none, none⟩),
      Json.foldMembers_cons (t := ⟨some s.hash, some s.status, none⟩),
      Json.foldMembers_cons (t := ⟨some s.hash, some s.status, some s.submittedAt.settled⟩)]
    · rfl
    · rw [Draft.step, if_neg (by decide), if_neg (by decide), if_pos rfl,
        Json.fill_none s.submittedAt.ofJson_toJson]
      rfl
    · rw [Draft.step, if_neg (by decide), if_pos rfl, Json.fill_none s.status.ofJson_toJson]
      rfl
    · rw [Draft.step, if_pos rfl, Json.fill_none s.hash.ofJson_toJson]
      rfl
  rw [toJson, Json.ofMembers, ofJson]
  simp only [List.map_cons, List.map_nil, hdraft]
  rfl

lemma isPlain_toJson (s : Submission) : Json.IsPlain s.toJson := by
  refine Json.isPlain_ofMembers fun m hm => ?_
  simp only [List.mem_cons, List.not_mem_nil, or_false] at hm
  rcases hm with rfl | rfl | rfl
  · exact Json.isPlain_ofText _
  · exact Json.isPlain_ofText _
  · exact Json.isPlain_ofText _

/-- What a list of submissions looks like is read back from its text. -/
@[simp] theorem readList_listText (ss : List Submission) :
    readList (listText ss) = .ok (ss.map settled) :=
  (Json.ReadsAs.mk isPlain_toJson ofJson_toJson).list.text ss

/-! ### What is read -/

/-- The members met so far hold no time that is not regular. -/
lemma Draft.step_regular {key : String} {j : Json} {d d' : Draft} (h : Draft.step key j d = .ok d')
    (hd : ∀ t ∈ d.submittedAt, t.IsRegular) : ∀ t ∈ d'.submittedAt, t.IsRegular := by
  rw [Draft.step] at h
  split_ifs at h
  · obtain ⟨hash, -, rfl⟩ := map_eq_ok_iff.mp h
    exact hd
  · obtain ⟨status, -, rfl⟩ := map_eq_ok_iff.mp h
    exact hd
  · obtain ⟨time, hfill, rfl⟩ := map_eq_ok_iff.mp h
    exact Instant.finds_ofJson.fill hfill
  · exact Json.skip_eq_ok h ▸ hd

lemma finds_ofJson : Json.Finds ofJson fun s => s.submittedAt.IsRegular := by
  intro j s h
  cases j with
  | object ms =>
      obtain ⟨d, hd, h⟩ := bind_eq_ok_iff.mp h
      obtain ⟨hash, -, h⟩ := bind_eq_ok_iff.mp h
      obtain ⟨status, -, h⟩ := bind_eq_ok_iff.mp h
      obtain ⟨time, htime, h⟩ := bind_eq_ok_iff.mp h
      cases h
      exact Json.foldMembers_induction (P := fun d => ∀ t ∈ d.submittedAt, t.IsRegular)
        Draft.step_regular hd (by simp) time (Json.present_eq_ok htime)
  | array js =>
      obtain ⟨⟨hash, js⟩, -, h⟩ := bind_eq_ok_iff.mp h
      obtain ⟨⟨status, js⟩, -, h⟩ := bind_eq_ok_iff.mp h
      obtain ⟨⟨time, js⟩, htime, h⟩ := bind_eq_ok_iff.mp h
      obtain ⟨-, -, h⟩ := bind_eq_ok_iff.mp h
      cases h
      exact Instant.finds_ofJson.next htime
  | _ => cases h

/-- The times of all submissions that are read are regular. -/
lemma isRegular_of_readList {text : String} {ss : List Submission} (h : readList text = .ok ss) :
    ∀ s ∈ ss, s.submittedAt.IsRegular := finds_ofJson.list.decode h

end Submission

/-! ### Keys -/

/-- No two accounts share a key. -/
lemma storageKey_injective : Function.Injective storageKey := by
  intro a b h
  refine Account.text_injective ?_
  have htext : ("ballot-submissions." ++ a.text).toList = ("ballot-submissions." ++ b.text).toList :=
    congrArg String.toList h
  rw [String.toList_append, String.toList_append, List.append_cancel_left_eq] at htext
  exact String.toList_inj.mp htext

end ChainElection
