import ChainElection.Client.Error
import ChainElection.Table

/-!
Where a client keeps the submissions of each account.

Every write replaces an account's whole list. A store keeps the lists as they
are, or the JSON texts of them under keys that name the accounts; a text that
someone else has written may not be a list at all. A store may also be out of
order: then loading or saving reports the error that is set for it. What loads
report once something has been saved is set apart, so that each call of those
who save and load again can fail by itself.

* `SubmissionStore.load`, `SubmissionStore.save` are all that is done to it.
* `SubmissionStore.contents` is what would be loaded from a store in order.
-/

namespace ChainElection

/-- The key under which an account's list is kept. -/
def storageKey (a : Account) : String := "ballot-submissions." ++ a.text

/-- What a store keeps. -/
inductive StoredLists where
  | lists (t : Table Account (List Submission))
  | texts (t : Table String String)
  deriving DecidableEq, Inhabited

/-- What is kept once a list is kept for an account. -/
def StoredLists.put (a : Account) (ss : List Submission) : StoredLists → StoredLists
  | .lists t => .lists (t.set a ss)
  | .texts t => .texts (t.set (storageKey a) (Submission.listText ss))

/-- A store of submissions, and the errors that it reports instead of working: on a load, on a save,
and on a load after the next save. -/
structure SubmissionStore where
  kept : StoredLists
  loadFault : Option ClientError
  saveFault : Option ClientError
  reloadFault : Option ClientError
  deriving DecidableEq

namespace SubmissionStore

/-- An empty store that keeps lists. -/
def ofLists : SubmissionStore := ⟨.lists .empty, none, none, none⟩

/-- An empty store that keeps texts. -/
def ofTexts : SubmissionStore := ⟨.texts .empty, none, none, none⟩

instance : Inhabited SubmissionStore := ⟨ofLists⟩

/-- The list of a text that is kept. -/
def readKept : Option String → Except ClientError (List Submission)
  | none => .ok []
  | some s =>
    match Submission.readList s with
    | .ok ss => .ok ss
    | .error _ => .error .json

/-- The list that is kept for an account, whether or not the store is in order. -/
def contents (st : SubmissionStore) (a : Account) : Except ClientError (List Submission) :=
  match st.kept with
  | .lists t => .ok ((t.get? a).getD [])
  | .texts t => readKept (t.get? (storageKey a))

/-- The list of an account. -/
def load (st : SubmissionStore) (a : Account) : Except ClientError (List Submission) :=
  match st.loadFault with
  | some e => .error e
  | none => st.contents a

/-- The store with a list saved for an account. -/
def save (st : SubmissionStore) (a : Account) (ss : List Submission) :
    Except ClientError SubmissionStore :=
  match st.saveFault with
  | some e => .error e
  | none => .ok { st with kept := st.kept.put a ss, loadFault := st.reloadFault }

/-- The store as it is once other errors are set. -/
def upset (st : SubmissionStore) (load save reload : Option ClientError) : SubmissionStore :=
  { st with loadFault := load, saveFault := save, reloadFault := reload }

/-- The store after someone else has written a text under an account's key. -/
def overwrite (st : SubmissionStore) (a : Account) (s : String) : SubmissionStore :=
  match st.kept with
  | .lists _ => st
  | .texts t => { st with kept := .texts (t.set (storageKey a) s) }

end SubmissionStore

end ChainElection
