import ChainElection.Chain.Transaction
import ChainElection.Time.Read
import ChainElection.Time.Written

/-!
Submissions: what a voter remembers of a ballot that was sent.

A submission is committed when it has been sent, approved or rejected when its
transaction is finalized, and an approved one is verified or discarded when the
ballot has been judged. There are no other ways to go.

* `SubmissionStatus.canBecome` is the one table of legal steps.
* `Submission.move` takes a legal step and leaves the rest as it is.
-/

namespace ChainElection

/-! ### Instants as JSON values -/

namespace Instant

/-- The instant as a JSON value. -/
def toJson (t : Instant) : Json := Json.ofText t.text

/-- Decodes an instant. -/
def ofJson : Json.Decoder Instant := Json.asParsed fun s => readLenient s.toList

end Instant

/-! ### Statuses -/

/-- How far a submission has come. -/
inductive SubmissionStatus where
  | committed
  | rejected
  | approved
  | discarded
  | verified
  deriving DecidableEq, Repr, Inhabited

namespace SubmissionStatus

/-- All statuses. -/
def all : List SubmissionStatus := [.committed, .rejected, .approved, .discarded, .verified]

/-- The status's name. -/
def text : SubmissionStatus → String
  | .committed => "Committed"
  | .rejected => "Rejected"
  | .approved => "Approved"
  | .discarded => "Discarded"
  | .verified => "Verified"

/-- The status of a name. -/
def read? (s : String) : Option SubmissionStatus := all.find? fun st => st.text == s

/-- Is this the end of the way? -/
def isFinal : SubmissionStatus → Bool
  | .rejected | .discarded | .verified => true
  | .committed | .approved => false

/-- May the second status follow on the first? -/
def canBecome : SubmissionStatus → SubmissionStatus → Bool
  | .committed, .approved => true
  | .committed, .rejected => true
  | .approved, .verified => true
  | .approved, .discarded => true
  | _, _ => false

/-- The status as a JSON value. -/
def toJson (s : SubmissionStatus) : Json := Json.ofText s.text

/-- Decodes a status: its name, or an object with the name as its only key and no value. -/
def ofJson : Json.Decoder SubmissionStatus
  | .string raw => Json.asParsed read? (.string raw)
  | .object [(raw, j)] =>
    match Json.text? raw with
    | none => .error .grammar
    | some key =>
      match read? key, j with
      | none, _ => .error .shape
      | some s, .null => .ok s
      | some _, j => .error (Json.mismatch j)
  | _ => .error .grammar

end SubmissionStatus

/-! ### Submissions -/

/-- A ballot that was sent, and how far it has come. -/
structure Submission where
  hash : TransactionHash
  status : SubmissionStatus
  submittedAt : Instant
  deriving DecidableEq, Inhabited

namespace Submission

/-- A ballot that has just been sent. -/
def fresh (hash : TransactionHash) (now : ClockTime) : Submission := ⟨hash, .committed, now⟩

/-- The submission one legal step further. -/
def move (s : Submission) (next : SubmissionStatus) : Option Submission :=
  if s.status.canBecome next then some { s with status := next } else none

/-- The submission as a JSON value. -/
def toJson (s : Submission) : Json :=
  Json.ofMembers
    [("transactionHex", s.hash.toJson), ("status", s.status.toJson),
      ("submittedAtISO", s.submittedAt.toJson)]

/-- The members of a submission that have been met so far. -/
structure Draft where
  hash : Option TransactionHash
  status : Option SubmissionStatus
  submittedAt : Option Instant

/-- Takes one more member into account. -/
def Draft.step (key : String) (j : Json) (d : Draft) : Except Json.Fault Draft :=
  if key = "transactionHex" then
    (Json.fill TransactionHash.ofJson d.hash j).map fun v => { d with hash := v }
  else if key = "status" then
    (Json.fill SubmissionStatus.ofJson d.status j).map fun v => { d with status := v }
  else if key = "submittedAtISO" then
    (Json.fill Instant.ofJson d.submittedAt j).map fun v => { d with submittedAt := v }
  else Json.skip j d

/-- Decodes a submission. -/
def ofJson : Json.Decoder Submission
  | .object ms => do
    let d ← Json.foldMembers Draft.step ⟨none, none, none⟩ ms
    let hash ← Json.present d.hash
    let status ← Json.present d.status
    let submittedAt ← Json.present d.submittedAt
    pure ⟨hash, status, submittedAt⟩
  | .array js => do
    let (hash, js) ← Json.next TransactionHash.ofJson js
    let (status, js) ← Json.next SubmissionStatus.ofJson js
    let (submittedAt, js) ← Json.next Instant.ofJson js
    Json.nothingLeft js
    pure ⟨hash, status, submittedAt⟩
  | j => .error (Json.mismatch j)

/-- The text of a list of submissions. -/
def listText (ss : List Submission) : String := (Json.array (ss.map toJson)).text

/-- The list of submissions that a text holds. -/
def readList (s : String) : Except Json.Fault (List Submission) :=
  Json.decodeText (Json.asList ofJson) s

end Submission

end ChainElection
