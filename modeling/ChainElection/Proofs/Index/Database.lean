import Mathlib.Tactic
import ChainElection.Index.Database

/-!
What the index knows after a batch of rows was written.

* `SubmissionRow.lastOf`: the row of a hash that counts in a batch is the last
  one.
* `IndexDatabase.upsertAll_rows`: after a batch, a hash has the row that counts,
  or the one that it had.
-/

namespace ChainElection

namespace SubmissionRow

/-- The last row of a hash in a batch. -/
def lastOf (hash : String) (rows : List SubmissionRow) : Option SubmissionRow :=
  rows.reverse.find? fun r => r.hash == hash

lemma lastOf_eq_none {hash : String} {rows : List SubmissionRow} :
    lastOf hash rows = none ↔ ∀ r ∈ rows, r.hash ≠ hash := by
  simp [lastOf, List.find?_eq_none]

/-- The row that counts is of the hash, and no row of it comes later. -/
lemma lastOf_eq_some {hash : String} {rows : List SubmissionRow} {row : SubmissionRow}
    (h : lastOf hash rows = some row) :
    row.hash = hash ∧ ∃ pre post, rows = pre ++ row :: post ∧ ∀ r ∈ post, r.hash ≠ hash := by
  obtain ⟨hrow, front, back, hsplit, hfront⟩ := List.find?_eq_some_iff_append.mp h
  refine ⟨by simpa using hrow, back.reverse, front.reverse, ?_, fun r hr => ?_⟩
  · rw [← List.reverse_reverse rows, hsplit]
    simp
  · simpa using hfront r (List.mem_reverse.mp hr)

lemma mem_of_lastOf {hash : String} {rows : List SubmissionRow} {row : SubmissionRow}
    (h : lastOf hash rows = some row) : row ∈ rows :=
  List.mem_reverse.mp (List.mem_of_find?_eq_some h)

/-- Of two batches the later one counts first. -/
lemma lastOf_append (hash : String) (rows rows' : List SubmissionRow) :
    lastOf hash (rows ++ rows') = (lastOf hash rows').or (lastOf hash rows) := by
  rw [lastOf, List.reverse_append, List.find?_append]
  rfl

end SubmissionRow

namespace IndexDatabase

variable {d : IndexDatabase} {t : Table String SubmissionRow}

lemma lastOf_cons (hash : String) (r : SubmissionRow) (rows : List SubmissionRow) :
    SubmissionRow.lastOf hash (r :: rows) =
      (SubmissionRow.lastOf hash rows).or (if r.hash = hash then some r else none) := by
  rw [SubmissionRow.lastOf, SubmissionRow.lastOf, List.reverse_cons, List.find?_append,
    List.find?_singleton]
  simp only [beq_iff_eq]

/-- After a batch every hash has the row that counts for it, or the one that it had before. No hash comes to
stand twice. -/
theorem upsertAll_rows (hd : d.rows = some t) (rows : List SubmissionRow) :
    ∃ t', d.upsertAll rows = .ok { d with rows := some t' } ∧ (t.keys.Nodup → t'.keys.Nodup) ∧
      ∀ hash, t'.get? hash = (SubmissionRow.lastOf hash rows).or (t.get? hash) := by
  induction rows generalizing d t with
  | nil =>
      refine ⟨t, ?_, id, fun hash => rfl⟩
      rw [upsertAll, ← hd]
  | cons r rows ih =>
      obtain ⟨t', ht', hkeys, hget⟩ :=
        ih (d := { d with rows := some (t.set r.hash r) }) (t := t.set r.hash r) rfl
      refine ⟨t', ?_, fun h => hkeys (Table.nodup_keys_set h r.hash r), fun hash => ?_⟩
      · rw [upsertAll, upsert, hd]
        exact ht'
      · rw [hget, lastOf_cons, Option.or_assoc, Table.get?_set]
        congr 1
        split <;> rfl

end IndexDatabase

end ChainElection
