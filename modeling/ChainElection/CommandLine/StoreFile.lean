import ChainElection.Submission.Database

/-!
The file in which the voter's program keeps its store.

The file holds a database, or something that cannot be opened as one. Opening it
brings the tables up to date, which has to be done already if the file is only
read. Then the program works on the table of texts; if there is none, every load
and every save fails, and if the file is only read, every save does.

* `StoreFile.opened` opens the file.
* `SubmissionDatabase.store` is the store of a database that is open,
  `SubmissionDatabase.keeping` the database once the program has worked on it.
-/

namespace ChainElection

/-- What a file can hold. -/
inductive StoreFile where
  | database (d : SubmissionDatabase)
  | foreign
  deriving DecidableEq

/-- A new file has a database without tables. -/
instance : Inhabited StoreFile := ⟨.database .blank⟩

/-- Opens the file, and says what it holds after that. -/
def StoreFile.opened (f : StoreFile) (onlyReads : Bool) :
    Except ClientError SubmissionDatabase × StoreFile :=
  match f with
  | .foreign => (.error .storage, .foreign)
  | .database d =>
    match d.migrate, onlyReads with
    | (.error e, after), false => (.error e, .database after)
    | (.error e, _), true => (.error e, .database d)
    | (.ok (), after), false => (.ok after, .database after)
    | (.ok (), after), true => (if after = d then .ok d else .error .storage, .database d)

namespace SubmissionDatabase

/-- The store of a database that is open. -/
def store (d : SubmissionDatabase) (onlyReads : Bool) : SubmissionStore :=
  match d.texts with
  | none => ⟨.texts .empty, some .storage, some .storage, some .storage⟩
  | some t => ⟨.texts t, none, if onlyReads then some .storage else none, none⟩

/-- The database with what its store keeps now. -/
def keeping (d : SubmissionDatabase) (st : SubmissionStore) : SubmissionDatabase :=
  match st.kept with
  | .texts t => { d with texts := d.texts.map fun _ => t }
  | .lists _ => d

end SubmissionDatabase

end ChainElection
