import ChainElection.Index.Row
import ChainElection.Table

/-!
The database of the submission index.

It has a table of migrations that were applied and a table of rows with one row
for each transaction hash, and an index on it. Either table may be missing;
what needs it fails then, and changes nothing. A batch of rows is written as a
whole or not at all.

* `IndexDatabase.migrate` brings the tables up to the current version.
* `upsert`, `upsertBatch` write rows; `byHash`, `ofAccount`, `count` read them.
-/

namespace ChainElection

/-- A database, with its tables as far as they exist. -/
structure IndexDatabase where
  migrations : Option (List (Int × String))
  rows : Option (Table String SubmissionRow)
  deriving DecidableEq

/-- The database could not do what it was told. -/
inductive IndexFault where
  | refused
  deriving DecidableEq, Repr

namespace IndexDatabase

/-- A database without tables. -/
def blank : IndexDatabase := ⟨none, none⟩

instance : Inhabited IndexDatabase := ⟨blank⟩

/-! ### Migrations -/

/-- The current version of the tables. -/
def currentVersion : Int := 1

/-- What the first migration does. -/
def firstMigration : String := "Ballot submissions indexed by transaction"

/-- The largest version among migrations, if there are any. -/
def largest : List (Int × String) → Option Int
  | [] => none
  | m :: ms =>
    match largest ms with
    | none => some m.1
    | some v => some (max m.1 v)

/-- The version of the tables; a version is a word of 32 bits. -/
def version (d : IndexDatabase) : Except IndexFault Int :=
  match d.migrations with
  | none => .error .refused
  | some ms =>
    match largest ms with
    | none => .ok 0
    | some v => if -2147483648 ≤ v ∧ v ≤ 2147483647 then .ok v else .error .refused

/-- Notes a migration. No version can be noted twice. -/
def note (d : IndexDatabase) (v : Int) (description : String) : Except IndexFault IndexDatabase :=
  match d.migrations with
  | none => .error .refused
  | some ms =>
    if ms.any fun m => m.1 == v then .error .refused
    else .ok { d with migrations := some (ms ++ [(v, description)]) }

/-- Makes the table of rows and notes it. -/
def makeRows (d : IndexDatabase) : Except IndexFault IndexDatabase :=
  match d.rows with
  | some _ => .error .refused
  | none => { d with rows := some .empty }.note currentVersion firstMigration

/-- Brings the tables up to the current version. -/
def migrate (d : IndexDatabase) : Except IndexFault Unit × IndexDatabase :=
  let d := { d with migrations := some (d.migrations.getD []) }
  match d.version with
  | .error f => (.error f, d)
  | .ok v =>
    if v < currentVersion then
      match d.makeRows with
      | .error f => (.error f, d)
      | .ok d => (.ok (), d)
    else (.ok (), d)

/-- The migrations that were applied, by version. -/
def applied (d : IndexDatabase) : Except IndexFault (List (Int × String)) :=
  match d.migrations with
  | none => .error .refused
  | some ms => .ok (ms.mergeSort fun a b => a.1 ≤ b.1)

/-- The kinds and names of what the database has, by name. -/
def schema (d : IndexDatabase) : List (String × String) :=
  (if d.rows.isSome then [("table", "ballot_submissions"), ("index", "idx_submissions_account")]
    else []) ++
    (if d.migrations.isSome then [("table", "schema_migrations")] else [])

/-- Drops the table of rows. -/
def dropRows (d : IndexDatabase) : Except IndexFault IndexDatabase :=
  match d.rows with
  | none => .error .refused
  | some _ => .ok { d with rows := none }

/-! ### Rows -/

/-- Writes a row in place of the one with its hash, if there is one. -/
def upsert (d : IndexDatabase) (r : SubmissionRow) : Except IndexFault IndexDatabase :=
  match d.rows with
  | none => .error .refused
  | some t => .ok { d with rows := some (t.set r.hash r) }

/-- Writes rows one after the other. -/
def upsertAll (d : IndexDatabase) : List SubmissionRow → Except IndexFault IndexDatabase
  | [] => .ok d
  | r :: rs =>
    match d.upsert r with
    | .error f => .error f
    | .ok d => d.upsertAll rs

/-- Writes a batch of rows, all or none, and counts them. -/
def upsertBatch (d : IndexDatabase) (rs : List SubmissionRow) :
    Except IndexFault Nat × IndexDatabase :=
  match d.upsertAll rs with
  | .error f => (.error f, d)
  | .ok d => (.ok rs.length, d)

/-- The row of a hash. -/
def byHash (d : IndexDatabase) (hash : String) : Except IndexFault (Option SubmissionRow) :=
  match d.rows with
  | none => .error .refused
  | some t => .ok (t.get? hash)

/-- The rows of an account, in order. -/
def ofAccount (d : IndexDatabase) (account : String) : Except IndexFault (List SubmissionRow) :=
  match d.rows with
  | none => .error .refused
  | some t => .ok ((t.values.filter fun r => r.account == account).mergeSort SubmissionRow.le)

/-- The number of rows. -/
def count (d : IndexDatabase) : Except IndexFault Nat :=
  match d.rows with
  | none => .error .refused
  | some t => .ok t.entries.length

end IndexDatabase

end ChainElection
