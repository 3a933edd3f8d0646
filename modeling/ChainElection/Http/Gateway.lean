import ChainElection.Client.Node
import ChainElection.Client.Submitter
import ChainElection.Http.Exchange
import ChainElection.Submission.Record
import ChainElection.Text.Blank

/-!
The node, the verification service, the wallet and the hosts of resources,
spoken to over HTTP.

Each function makes a request and reads the answer; what it makes of the answer
depends on the answer alone.

* `NodeGateway.judge` decides what one answer says of a transaction:
  nothing yet, or how waiting for it ends. `NodeGateway.awaitFinality` asks
  until it is decided, `NodeGateway.finality` is the same for a list of answers.
-/

namespace ChainElection

/-! ### The node -/

/-- A node's gateway, by its address without slashes behind it. -/
structure NodeGateway where
  base : String
  deriving DecidableEq, Inhabited

namespace NodeGateway

/-- The gateway at an address. -/
def ofUrl (url : String) : NodeGateway := ⟨Text.trimSlashes url⟩

/-- The body of a simulated call. -/
def invokeBody (r : InvokeRequest) : Json :=
  Json.ofMembers
    [("contract", r.contract.toJson), ("receiveName", Json.ofText r.receiveName),
      ("parameter", Json.ofText (Hex.text r.parameter)),
      ("invoker", Json.ofOption Account.toJson r.invoker),
      ("amount", Json.ofNat r.amount.toNat)]

/-- The members of an answer to a simulated call that have been met so far. -/
structure Draft where
  energy : Option Nat
  returnValue : Option (Option String)
  reason : Option String

/-- Takes one more member of a success into account. -/
def Draft.stepSuccess (key : String) (j : Json) (d : Draft) : Except Json.Fault Draft :=
  if key = "usedEnergy" then
    (Json.fill (Json.asNatural Numeral.max64) d.energy j).map fun v => { d with energy := v }
  else if key = "returnValue" then
    (Json.fill (Json.asOption Json.asText) d.returnValue j).map fun v =>
      { d with returnValue := v }
  else Json.skip j d

/-- Takes one more member of a failure into account. -/
def Draft.stepFailure (key : String) (j : Json) (d : Draft) : Except Json.Fault Draft :=
  if key = "usedEnergy" then
    (Json.fill (Json.asNatural Numeral.max64) d.energy j).map fun v => { d with energy := v }
  else if key = "reason" then
    (Json.fill Json.asText d.reason j).map fun v => { d with reason := v }
  else Json.skip j d

/-- Decodes a success: its energy and the text of its return value. -/
def successOfJson : Json.Decoder (Nat × Option String)
  | .object ms => do
    let d ← Json.foldMembers Draft.stepSuccess ⟨none, none, none⟩ ms
    pure (← Json.present d.energy, d.returnValue.getD none)
  | .array js => do
    let (energy, js) ← Json.next (Json.asNatural Numeral.max64) js
    let (value, js) ← Json.next (Json.asOption Json.asText) js
    Json.nothingLeft js
    pure (energy, value)
  | j => .error (Json.mismatch j)

/-- Decodes a failure: its energy and its reason. -/
def failureOfJson : Json.Decoder (Nat × String)
  | .object ms => do
    let d ← Json.foldMembers Draft.stepFailure ⟨none, none, none⟩ ms
    pure (← Json.present d.energy, ← Json.present d.reason)
  | .array js => do
    let (energy, js) ← Json.next (Json.asNatural Numeral.max64) js
    let (reason, js) ← Json.next Json.asText js
    Json.nothingLeft js
    pure (energy, reason)
  | j => .error (Json.mismatch j)

/-- The answer to a simulated call, before its return value is read. -/
inductive Invoked where
  | success (energy : Nat) (returnValue : Option String)
  | failure (energy : Nat) (reason : String)
  deriving DecidableEq

/-- Decodes the answer to a simulated call. -/
def invokedOfJson : Json.Decoder Invoked := fun j => do
  let (tag, rest) ← Json.tagged "tag" j
  if tag = "success" then (successOfJson rest).map fun p => .success p.1 p.2
  else if tag = "failure" then (failureOfJson rest).map fun p => .failure p.1 p.2
  else .error .shape

/-- Reads the return value of an answer, which is in hexadecimal digits. -/
def Invoked.result : Invoked → Except ClientError InvokeResult
  | .failure energy reason => .ok (.failure ⟨UInt64.ofNat energy⟩ reason)
  | .success energy none => .ok (.success ⟨UInt64.ofNat energy⟩ none)
  | .success energy (some text) =>
    match Hex.read text with
    | .ok bs => .ok (.success ⟨UInt64.ofNat energy⟩ (some bs))
    | .error f => .error (.node s!"return value is not hex: {f.message}")

/-- The request for a simulated call. -/
def invokeRequest (n : NodeGateway) (r : InvokeRequest) : HttpRequest :=
  ⟨.post, n.base ++ "/v1/invoke", some (invokeBody r)⟩

/-- Makes a simulated call. -/
def invoke {σ : Type} (n : NodeGateway) (ex : Exchange σ) (r : InvokeRequest) :
    StateM σ (Except ClientError InvokeResult) := do
  match ← ex.askFor (n.invokeRequest r) invokedOfJson with
  | .error e => pure (.error e)
  | .ok i => pure i.result

/-- The request for the outcome of a transaction. -/
def finalityRequest (n : NodeGateway) (h : TransactionHash) : HttpRequest :=
  ⟨.get, n.base ++ "/v1/transactions/" ++ h.text ++ "/finalized", none⟩

/-- What an answer says of a transaction, unless that it is still pending. -/
def judge (h : TransactionHash) (answer : Except HttpFault HttpAnswer) :
    Option (Except ClientError TransactionOutcome) :=
  match answer with
  | .error f => some (.error (.http f))
  | .ok a =>
    if a.status = 202 then none
    else if a.status = 404 then some (.error (.node s!"unknown transaction {h.text}"))
    else
      match a.expect TransactionOutcome.ofJson with
      | .error f => some (.error (.http f))
      | .ok o => some (.ok o)

/-- How waiting for a transaction went: the requests made, the intervals slept, and the end, if it has
come to one. -/
structure Finality where
  requests : Nat
  sleeps : Nat
  outcome : Option (Except ClientError TransactionOutcome)

/-- Waiting for a transaction, given the answers to come. -/
def finality (h : TransactionHash) : List (Except HttpFault HttpAnswer) → Finality
  | [] => ⟨0, 0, none⟩
  | a :: r =>
    match judge h a with
    | some o => ⟨1, 0, some o⟩
    | none =>
      let f := finality h r
      ⟨f.requests + 1, f.sleeps + 1, f.outcome⟩

/-- Asks until it is decided how a transaction ended, but at most `patience` times. -/
def awaitFinality {σ : Type} (n : NodeGateway) (ex : Exchange σ) (h : TransactionHash) :
    Nat → StateM σ (Option (Except ClientError TransactionOutcome))
  | 0 => pure none
  | patience + 1 => do
    match judge h (← ex.ask (n.finalityRequest h)) with
    | some o => pure (some o)
    | none => n.awaitFinality ex h patience

end NodeGateway

/-! ### The verification service -/

/-- The verification service, by its address without slashes behind it. -/
structure VerifierGateway where
  base : String
  deriving DecidableEq, Inhabited

namespace VerifierGateway

/-- The service at an address. -/
def ofUrl (url : String) : VerifierGateway := ⟨Text.trimSlashes url⟩

/-- What the service knows of a submission, if it has seen it. -/
def submissionStatus {σ : Type} (v : VerifierGateway) (ex : Exchange σ) (h : TransactionHash) :
    StateM σ (Except ClientError (Option SubmissionRecord)) :=
  ex.askFor ⟨.get, v.base ++ "/submission-status/" ++ h.text, none⟩
    (Json.asOption SubmissionRecord.ofJson)

/-- What the service knows of an account's submissions. -/
def submissions {σ : Type} (v : VerifierGateway) (ex : Exchange σ) (a : Account) :
    StateM σ (Except ClientError (List SubmissionRecord)) :=
  ex.askFor ⟨.get, v.base ++ "/submissions/" ++ a.text, none⟩
    (Json.asList SubmissionRecord.ofJson)

end VerifierGateway

/-! ### The wallet -/

/-- A wallet that signs for an account on a network, by its address without slashes behind it. -/
structure WalletGateway where
  base : String
  account : Account
  network : Network
  deriving DecidableEq, Inhabited

namespace WalletGateway

/-- The wallet at an address. -/
def ofUrl (url : String) (a : Account) (n : Network) : WalletGateway := ⟨Text.trimSlashes url, a, n⟩

/-- The body of a request to sign and send. -/
def signBody (w : WalletGateway) (p : UpdatePayload) : Json :=
  Json.ofMembers
    [("sender", w.account.toJson), ("network", Json.ofText w.network.text),
      ("contract", p.contract.toJson), ("receiveName", Json.ofText p.receiveName),
      ("parameter", Json.ofText (Hex.text p.parameter)), ("amount", Json.ofNat p.amount.toNat),
      ("maxEnergy", p.maxEnergy.toJson)]

/-- The members of a wallet's answer that have been met so far. -/
structure Draft where
  hash : Option (Option TransactionHash)
  error : Option (Option String)

/-- Takes one more member into account. -/
def Draft.step (key : String) (j : Json) (d : Draft) : Except Json.Fault Draft :=
  if key = "transactionHash" then
    (Json.fill (Json.asOption TransactionHash.ofJson) d.hash j).map fun v => { d with hash := v }
  else if key = "error" then
    (Json.fill (Json.asOption Json.asText) d.error j).map fun v => { d with error := v }
  else Json.skip j d

/-- Decodes a wallet's answer: a hash, or an error's text. -/
def answerOfJson : Json.Decoder (Option TransactionHash × Option String)
  | .object ms => do
    let d ← Json.foldMembers Draft.step ⟨none, none⟩ ms
    pure (d.hash.getD none, d.error.getD none)
  | .array js => do
    let (hash, js) ← Json.next (Json.asOption TransactionHash.ofJson) js
    let (error, js) ← Json.nextOr (Json.asOption Json.asText) none js
    Json.nothingLeft js
    pure (hash, error)
  | j => .error (Json.mismatch j)

/-- What a wallet's answer amounts to. -/
def signed : Option TransactionHash × Option String → Except ClientError TransactionHash
  | (some h, _) => .ok h
  | (none, some text) => .error (.walletRejected text)
  | (none, none) => .error (.walletRejected "no transaction hash returned")

/-- The request to sign and send an update. -/
def signRequest (w : WalletGateway) (p : UpdatePayload) : HttpRequest :=
  ⟨.post, w.base ++ "/sign-and-send", some (w.signBody p)⟩

/-- Has the wallet sign and send an update. -/
def sign {σ : Type} (w : WalletGateway) (ex : Exchange σ) (p : UpdatePayload) :
    StateM σ (Except ClientError TransactionHash) := do
  match ← ex.askFor (w.signRequest p) answerOfJson with
  | .error e => pure (.error e)
  | .ok a => pure (signed a)

end WalletGateway

/-! ### Resources -/

namespace Resource

/-- What an answer to the request for a resource gives, verified against its digest. If the body is too
large, the fault names the address of the resource as it was asked for. That is the address of the answer
if it is written the way the library writes addresses and nothing was redirected; otherwise the library
names the one that has answered, which is not known here. -/
def ofAnswer {α : Type} (r : Resource) (limit : Nat) (d : Json.Decoder α) (guard : α → Bool)
    (answer : Except HttpFault HttpAnswer) : Except ClientError α :=
  match answer with
  | .error f => .error (.http f)
  | .ok a =>
    match a.success? with
    | .error f => .error (.http f)
    | .ok a =>
      match a.body.readLimited r.url limit with
      | .error e => .error e
      | .ok bs =>
        match r.verify d guard bs with
        | .error f => .error (.resource f)
        | .ok v => .ok v

/-- Fetches a resource and verifies it. -/
def fetch {σ α : Type} (r : Resource) (ex : Exchange σ) (limit : Nat) (d : Json.Decoder α)
    (guard : α → Bool) : StateM σ (Except ClientError α) := do
  pure (r.ofAnswer limit d guard (← ex.ask ⟨.get, r.url, none⟩))

end Resource

namespace Candidate

/-- Fetches the descriptions of a list of candidates. -/
def fetchDetails {σ : Type} (ex : Exchange σ) (limit : Nat) :
    List Resource → StateM σ (List (Except ClientError CandidateDetails))
  | [] => pure []
  | r :: rs => do
    let d ← r.fetch ex limit CandidateDetails.ofJson CandidateDetails.isWellFormed
    pure (d :: (← fetchDetails ex limit rs))

/-- Fetches the candidates of an election; those whose descriptions cannot be had are left out. -/
def fetchAll {σ : Type} (ex : Exchange σ) (limit : Nat) (c : ElectionConfig) :
    StateM σ (List Candidate) := do
  pure (choose (← fetchDetails ex limit c.candidates))

end Candidate

end ChainElection
