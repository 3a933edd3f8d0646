import ChainElection.Index.Database
import ChainElection.Submission.Store

/-!
The two stores that a client can keep its submissions in.

One is a database in a file. It has a table of migrations that were applied and
a table with one text for each key. Either table may be missing; what needs it
fails then, and changes nothing. Whenever the file is opened the tables are
brought up to the current version. The other store holds the lists themselves,
under the same keys, for as long as the program runs.

* `SubmissionDatabase.migrate` is what opening the file does to the tables.
* `load`, `save` of `SubmissionDatabase` and of `HeldLists` are all that is done
  to either of them.
-/

namespace ChainElection

/-! ### The database -/

/-- A database of submissions, with its tables as far as they exist. -/
structure SubmissionDatabase where
  migrations : Option (List (Int × String))
  texts : Option (Table String String)
  deriving DecidableEq

namespace SubmissionDatabase

/-- A database without tables: that of a new file. -/
def blank : SubmissionDatabase := ⟨none, none⟩

instance : Inhabited SubmissionDatabase := ⟨blank⟩

/-- The current version of the tables. -/
def currentVersion : Int := 1

/-- What the first migration does. -/
def firstMigration : String := "Key/value table for submission lists"

/-- The version of the tables; a version is a word of 32 bits. -/
def version (d : SubmissionDatabase) : Except ClientError Int :=
  match d.migrations with
  | none => .error .storage
  | some ms =>
    match IndexDatabase.largest ms with
    | none => .ok 0
    | some v => if -2147483648 ≤ v ∧ v ≤ 2147483647 then .ok v else .error .storage

/-- Makes the table of texts and notes it. No version can be noted twice. -/
def makeTexts (d : SubmissionDatabase) : Except ClientError SubmissionDatabase :=
  match d.texts, d.migrations with
  | none, some ms =>
    if ms.any fun m => m.1 == currentVersion then .error .storage
    else .ok ⟨some (ms ++ [(currentVersion, firstMigration)]), some .empty⟩
  | _, _ => .error .storage

/-- Brings the tables up to the current version. -/
def migrate (d : SubmissionDatabase) : Except ClientError Unit × SubmissionDatabase :=
  let d := { d with migrations := some (d.migrations.getD []) }
  match d.version with
  | .error e => (.error e, d)
  | .ok v =>
    if v < currentVersion then
      match d.makeTexts with
      | .error e => (.error e, d)
      | .ok d => (.ok (), d)
    else (.ok (), d)

/-- The database of a new file that was opened. -/
def fresh : SubmissionDatabase := blank.migrate.2

/-- The list of an account, read from its text. -/
def load (d : SubmissionDatabase) (a : Account) : Except ClientError (List Submission) :=
  match d.texts with
  | none => .error .storage
  | some t => SubmissionStore.readKept (t.get? (storageKey a))

/-- Writes the text of a list in place of the account's one. -/
def save (d : SubmissionDatabase) (a : Account) (ss : List Submission) :
    Except ClientError Unit × SubmissionDatabase :=
  match d.texts with
  | none => (.error .storage, d)
  | some t => (.ok (), { d with texts := some (t.set (storageKey a) (Submission.listText ss)) })

end SubmissionDatabase

/-! ### Lists in memory -/

/-- The lists of all accounts, by their keys. -/
structure HeldLists where
  lists : Table String (List Submission)
  deriving DecidableEq, Inhabited

namespace HeldLists

/-- No lists at all. -/
def empty : HeldLists := ⟨.empty⟩

/-- The list of an account. -/
def load (l : HeldLists) (a : Account) : Except ClientError (List Submission) :=
  .ok ((l.lists.get? (storageKey a)).getD [])

/-- Holds a list in place of the account's one. -/
def save (l : HeldLists) (a : Account) (ss : List Submission) : Except ClientError Unit × HeldLists :=
  (.ok (), ⟨l.lists.set (storageKey a) ss⟩)

end HeldLists

end ChainElection
