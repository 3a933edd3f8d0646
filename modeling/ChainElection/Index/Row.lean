import ChainElection.Bytes.Order
import ChainElection.Submission.Record

/-!
Rows: how the submission index keeps a record.

A row consists of texts and the verdict. The time is cut down to milliseconds,
in a form of fixed width for the years of four digits, so that the order of the
texts is the order of the times. A row that someone else has written may not
stand for a record.

* `SubmissionRow.ofRecord` writes a record, `SubmissionRow.record` reads it.
* `SubmissionRow.le` is the order in which rows are listed.
-/

namespace ChainElection

/-- A row of the index. -/
structure SubmissionRow where
  hash : String
  account : String
  time : String
  verified : Bool
  deriving DecidableEq, Repr, Inhabited

/-- Why a row does not stand for a record. -/
inductive RowFault where
  | hash (text : String) (f : KeyFault)
  | account (text : String) (f : KeyFault)
  | time (text : String)
  deriving DecidableEq

/-- What is said of the fault; a time that cannot be read has no text of its own. -/
def RowFault.message : RowFault → String
  | .hash text f => s!"corrupt transaction hash {text}: {f.message}"
  | .account text f => s!"corrupt account {text}: {f.message}"
  | .time _ => "corrupt timestamp"

namespace SubmissionRow

/-- The row of a record. -/
def ofRecord (r : SubmissionRecord) : SubmissionRow :=
  ⟨r.hash.text, r.account.text, r.time.rowText, r.verified⟩

/-- The record of a row. -/
def record (r : SubmissionRow) : Except RowFault SubmissionRecord :=
  match TransactionHash.read r.hash with
  | .error f => .error (.hash r.hash f)
  | .ok hash =>
    match Account.read r.account with
    | .error f => .error (.account r.account f)
    | .ok account =>
      match Instant.readStrict r.time.toList with
      | none => .error (.time r.time)
      | some time => .ok ⟨hash, account, time, r.verified⟩

/-- The records of rows; the first row that stands for none decides. -/
def records : List SubmissionRow → Except RowFault (List SubmissionRecord)
  | [] => .ok []
  | r :: rs =>
    match r.record with
    | .error f => .error f
    | .ok x => (records rs).map (x :: ·)

/-- Is a row listed before another? By the text of the time, then by the text of the hash, byte by
byte. -/
def le (a b : SubmissionRow) : Bool :=
  if a.time = b.time then Bytes.le (Utf8.ofString a.hash) (Utf8.ofString b.hash)
  else Bytes.le (Utf8.ofString a.time) (Utf8.ofString b.time)

end SubmissionRow

end ChainElection
