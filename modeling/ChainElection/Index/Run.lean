import ChainElection.Index.Database

/-!
The index over time: batches one after the other, and restarts in between.

The write of any row of a batch may fail, and so may the end of the batch. The
whole batch is taken back then.

* `IndexDatabase.upsertBatchAmid` writes a batch amid such failures.
* `IndexDatabase.run` is the database after a sequence of actions,
  `IndexAction.written` the rows that come to stay.
-/

namespace ChainElection

namespace IndexDatabase

/-- A new database, with its tables made. -/
def fresh : IndexDatabase := blank.migrate.2

/-- Writes rows one after the other. What `fails` holds of goes wrong: the row at that place, or behind
the last row the end of the batch. -/
def upsertAllAmid (d : IndexDatabase) (fails : Nat → Bool) :
    List SubmissionRow → Except IndexFault IndexDatabase
  | [] => if fails 0 then .error .refused else .ok d
  | r :: rs =>
    if fails 0 then .error .refused
    else
      match d.upsert r with
      | .error f => .error f
      | .ok d => d.upsertAllAmid (fun i => fails (i + 1)) rs

/-- Writes a batch of rows amid failures, all or none, and counts them. -/
def upsertBatchAmid (d : IndexDatabase) (fails : Nat → Bool) (rs : List SubmissionRow) :
    Except IndexFault Nat × IndexDatabase :=
  match d.upsertAllAmid fails rs with
  | .error f => (.error f, d)
  | .ok d => (.ok rs.length, d)

end IndexDatabase

/-- What happens to an index: a batch is written, amid failures, or it is opened again and its tables
are brought up to date. -/
inductive IndexAction where
  | batch (fails : Nat → Bool) (rows : List SubmissionRow)
  | reopen

namespace IndexAction

/-- Does anything go wrong with a batch, the end of it included? -/
def breaks (fails : Nat → Bool) (rows : List SubmissionRow) : Bool :=
  (List.range (rows.length + 1)).any fails

/-- The rows of an action that come to stay. -/
def kept : IndexAction → List SubmissionRow
  | .batch fails rows => if breaks fails rows then [] else rows
  | .reopen => []

/-- The rows that come to stay, in the order in which they were written. -/
def written (actions : List IndexAction) : List SubmissionRow := actions.flatMap kept

end IndexAction

namespace IndexDatabase

/-- The database after an action. -/
def act (d : IndexDatabase) : IndexAction → IndexDatabase
  | .batch fails rows => (d.upsertBatchAmid fails rows).2
  | .reopen => d.migrate.2

/-- The database after actions, one after the other. -/
def run (d : IndexDatabase) (actions : List IndexAction) : IndexDatabase := actions.foldl act d

end IndexDatabase

end ChainElection
