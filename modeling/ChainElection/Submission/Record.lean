import ChainElection.Submission.Status

/-!
Records: what the verification service knows of a ballot.
-/

namespace ChainElection

/-- A ballot as the verification service has indexed it, and whether it counts. -/
structure SubmissionRecord where
  hash : TransactionHash
  account : Account
  time : Instant
  verified : Bool
  deriving DecidableEq, Inhabited

namespace SubmissionRecord

/-- The record as a JSON value. -/
def toJson (r : SubmissionRecord) : Json :=
  Json.ofMembers
    [("transactionHash", r.hash.toJson), ("account", r.account.toJson),
      ("timestamp", r.time.toJson), ("verified", .bool r.verified)]

/-- The members of a record that have been met so far. -/
structure Draft where
  hash : Option TransactionHash
  account : Option Account
  time : Option Instant
  verified : Option Bool

/-- Takes one more member into account. -/
def Draft.step (key : String) (j : Json) (d : Draft) : Except Json.Fault Draft :=
  if key = "transactionHash" then
    (Json.fill TransactionHash.ofJson d.hash j).map fun v => { d with hash := v }
  else if key = "account" then
    (Json.fill Account.ofJson d.account j).map fun v => { d with account := v }
  else if key = "timestamp" then
    (Json.fill Instant.ofJson d.time j).map fun v => { d with time := v }
  else if key = "verified" then
    (Json.fill Json.asBool d.verified j).map fun v => { d with verified := v }
  else Json.skip j d

/-- Decodes a record. -/
def ofJson : Json.Decoder SubmissionRecord
  | .object ms => do
    let d ← Json.foldMembers Draft.step ⟨none, none, none, none⟩ ms
    let hash ← Json.present d.hash
    let account ← Json.present d.account
    let time ← Json.present d.time
    let verified ← Json.present d.verified
    pure ⟨hash, account, time, verified⟩
  | .array js => do
    let (hash, js) ← Json.next TransactionHash.ofJson js
    let (account, js) ← Json.next Account.ofJson js
    let (time, js) ← Json.next Instant.ofJson js
    let (verified, js) ← Json.next Json.asBool js
    Json.nothingLeft js
    pure ⟨hash, account, time, verified⟩
  | j => .error (Json.mismatch j)

end SubmissionRecord

end ChainElection
