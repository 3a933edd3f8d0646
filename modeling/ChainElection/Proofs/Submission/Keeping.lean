import Mathlib.Tactic
import ChainElection.Proofs.Submission.History
import ChainElection.Proofs.Submission.Text

/-!
What a store of submissions keeps.

* `SubmissionStore.contents_of_load`: what is loaded is what is kept.
* `SubmissionStore.save_eq_ok_iff`, `save_eq_error_iff`: whether a list is saved
  does not depend on the list.
* `SubmissionStore.contents_save`: what was saved is kept as the store shows it,
  and no other account's list has changed.
* `SubmissionStore.Suits`: the store shows a list as it is. Those that were loaded
  suit it, and `Changes.suits` says that those that are made of them do, too.
  `Changes.contents_save` is what this means where a list is loaded, changed and
  saved.
* `SubmissionStore.InOrder`: no load and no save will fail.
-/

namespace ChainElection

namespace SubmissionStore

variable {st st' : SubmissionStore} {a : Account} {ss : List Submission} {e : ClientError}

/-- What is loaded is what is kept. -/
lemma contents_of_load (h : st.load a = .ok ss) : st.contents a = .ok ss := by
  rw [load] at h
  split at h
  · cases h
  · exact h

/-- Setting errors does not change what is kept. -/
lemma contents_upset (st : SubmissionStore) (load save reload : Option ClientError)
    (a : Account) : (st.upset load save reload).contents a = st.contents a := rfl

lemma save_eq_error_iff : st.save a ss = .error e ↔ st.saveFault = some e := by
  rw [save]
  split
  · rename_i e' hfault
    rw [hfault, Except.error.injEq, Option.some.injEq]
  · rename_i hnone
    simp [hnone]

lemma save_eq_ok_iff : st.save a ss = .ok st' ↔
    st.saveFault = none ∧ st' = { st with kept := st.kept.put a ss, loadFault := st.reloadFault } := by
  rw [save]
  split
  · rename_i e' hfault
    simp [hfault]
  · rename_i hnone
    simp [hnone, eq_comm]

/-- The store keeps texts, under keys that name the accounts. -/
def KeepsTexts (st : SubmissionStore) : Prop := ∃ t, st.kept = .texts t

/-- The list as the store shows it once it was saved. -/
def shown (st : SubmissionStore) (ss : List Submission) : List Submission :=
  match st.kept with
  | .lists _ => ss
  | .texts _ => ss.map Submission.settled

/-- What was saved is kept as the store shows it, and no other account's list has changed. -/
theorem contents_save (h : st.save a ss = .ok st') (b : Account) :
    st'.contents b = if a = b then .ok (st.shown ss) else st.contents b := by
  obtain ⟨-, rfl⟩ := save_eq_ok_iff.mp h
  rw [contents, contents, shown]
  cases hkept : st.kept with
  | lists t =>
      simp only [StoredLists.put, Table.get?_set]
      split
      · rfl
      · rfl
  | texts t =>
      simp only [StoredLists.put, Table.get?_set, storageKey_injective.eq_iff]
      split
      · rw [readKept, Submission.readList_listText]
      · rfl

/-- If the store keeps texts, all times in the list are regular. -/
def Suits (st : SubmissionStore) (ss : List Submission) : Prop :=
  st.KeepsTexts → ∀ s ∈ ss, s.submittedAt.IsRegular

/-- A list that suits the store is shown as it is. -/
lemma shown_of_suits (h : st.Suits ss) : st.shown ss = ss := by
  rw [shown]
  split
  · rfl
  · rename_i t hkept
    exact Submission.map_settled (h ⟨t, hkept⟩)

/-- What is loaded suits the store. -/
lemma suits_of_load (h : st.load a = .ok ss) : st.Suits ss := by
  rintro ⟨t, ht⟩
  have hss := contents_of_load h
  rw [contents, ht] at hss
  cases htext : t.get? (storageKey a) with
  | none =>
      simp only [htext, readKept, Except.ok.injEq] at hss
      exact hss ▸ List.forall_mem_nil _
  | some text =>
      simp only [htext, readKept] at hss
      split at hss
      · rename_i hread
        cases hss
        exact Submission.isRegular_of_readList hread
      · cases hss

/-! ### Stores that work -/

/-- No load and no save will fail. -/
structure InOrder (st : SubmissionStore) : Prop where
  load : st.loadFault = none
  save : st.saveFault = none
  reload : st.reloadFault = none

lemma InOrder.load_eq (h : st.InOrder) (a : Account) : st.load a = st.contents a := by
  rw [SubmissionStore.load, h.load]

lemma InOrder.exists_save (h : st.InOrder) (a : Account) (ss : List Submission) :
    ∃ st', st.save a ss = .ok st' :=
  ⟨_, save_eq_ok_iff.mpr ⟨h.save, rfl⟩⟩

/-- Saving keeps a store in order. -/
lemma InOrder.of_save (h : st.InOrder) (hsave : st.save a ss = .ok st') : st'.InOrder := by
  obtain ⟨-, rfl⟩ := save_eq_ok_iff.mp hsave
  exact ⟨h.reload, h.save, h.reload⟩

end SubmissionStore

/-- What a write makes of a list that suits a store suits it, too. -/
lemma Submission.Changes.suits {st : SubmissionStore} {ss ss' : List Submission} (h : Changes ss ss')
    (hss : st.Suits ss) : st.Suits ss' := by
  intro hkeeps
  have hregular := hss hkeeps
  cases h with
  | added now _ =>
      refine List.forall_mem_append.mpr ⟨hregular, ?_⟩
      exact List.forall_mem_singleton.mpr now.regular
  | moved _ _ =>
      rw [List.forall_mem_append, List.forall_mem_cons] at hregular ⊢
      exact hregular

/-- What a write made of a loaded list is kept once it was saved, and no other account's list has changed. -/
theorem Submission.Changes.contents_save {st st' : SubmissionStore} {a : Account}
    {ss ss' : List Submission} (h : Changes ss ss') (hload : st.load a = .ok ss)
    (hsave : st.save a ss' = .ok st') (b : Account) :
    st'.contents b = if a = b then .ok ss' else st.contents b := by
  have hsuits := h.suits (SubmissionStore.suits_of_load hload)
  rw [SubmissionStore.contents_save hsave, SubmissionStore.shown_of_suits hsuits]

end ChainElection
