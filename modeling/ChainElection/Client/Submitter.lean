import ChainElection.Client.Node

/-!
Submitting a ballot: a dry run, then the wallet.

Registering votes is simulated first. Only if that succeeds is the wallet asked
to sign and send the very same call, with the energy that the dry run took and
a margin as its ceiling. A ballot for an election whose configuration is known
is checked against it before anything else, and every ballot has to be written
before a node can be asked: how many selections it has is written in four bytes.

* `Ballot.writable` is whether a ballot can be written, `admitted` whether it may
  be cast as far as is known.
* `ElectionContract.dryRun` is the simulated call, `ElectionContract.payload`
  what is handed to the wallet after it.
* `submit` puts the two together for any way of asking a node and a wallet.
-/

namespace ChainElection

/-- The entry point that registers votes. -/
def registerEntrypoint : String := "registerVotes"

/-- What is added to the energy of a dry run. -/
def energyMargin : UInt64 := 1

/-- May a ballot be cast now? The phase is looked at before the number of selections. -/
def ElectionConfig.admit (c : ElectionConfig) (now : Instant) (b : Ballot) :
    Except ClientError Unit :=
  if c.phase now ≠ .voting then .error (.electionClosed (c.phase now))
  else if b.selections.length ≠ c.candidates.length then
    .error (.invalidBallot (.miscounted b.selections.length c.candidates.length))
  else .ok ()

/-- Can a ballot be written? Four bytes have to be enough for the number of its selections. -/
def Ballot.writable (b : Ballot) : Except ClientError Unit :=
  if b.selections.length < UInt32.size then .ok () else .error .io

/-- May a ballot be cast now, as far as is known? It is written only after it was looked at. -/
def admitted (config : Option ElectionConfig) (now : Instant) (b : Ballot) :
    Except ClientError Unit :=
  match config with
  | some c =>
    match c.admit now b with
    | .error e => .error e
    | .ok () => b.writable
  | none => b.writable

namespace ElectionContract

/-- The dry run of a ballot. -/
def dryRun (c : ElectionContract) (b : Ballot) (sender : Account) : InvokeRequest where
  contract := c.address
  receiveName := c.receiveName registerEntrypoint
  parameter := Ballot.codec.encode b
  invoker := some sender
  amount := 0

/-- What is handed to the wallet after a dry run that succeeded. -/
def payload (c : ElectionContract) (b : Ballot) (estimate : Energy) : UpdatePayload where
  contract := c.address
  receiveName := c.receiveName registerEntrypoint
  parameter := Ballot.codec.encode b
  amount := 0
  maxEnergy := estimate.add energyMargin

/-- What follows from the answer to a dry run. -/
def afterDryRun (c : ElectionContract) (b : Ballot) :
    Except ClientError InvokeResult → Except ClientError UpdatePayload
  | .error e => .error e
  | .ok (.failure _ reason) =>
    .error (.dryRunFailed (c.receiveName registerEntrypoint) reason)
  | .ok (.success energy _) => .ok (c.payload b energy)

/-- Submits a ballot, given ways to ask a node and a wallet. -/
def submit {m : Type → Type} [Monad m] (c : ElectionContract) (b : Ballot) (sender : Account)
    (invoke : InvokeRequest → m (Except ClientError InvokeResult))
    (sign : UpdatePayload → m (Except ClientError TransactionHash)) :
    m (Except ClientError TransactionHash) :=
  match b.writable with
  | .error e => pure (.error e)
  | .ok () => do
    match c.afterDryRun b (← invoke (c.dryRun b sender)) with
    | .error e => pure (.error e)
    | .ok p => sign p

/-- Submits a ballot for an election whose configuration may be known. -/
def submitFor {m : Type → Type} [Monad m] (c : ElectionContract) (config : Option ElectionConfig)
    (now : Instant) (b : Ballot) (sender : Account)
    (invoke : InvokeRequest → m (Except ClientError InvokeResult))
    (sign : UpdatePayload → m (Except ClientError TransactionHash)) :
    m (Except ClientError TransactionHash) :=
  match config with
  | none => c.submit b sender invoke sign
  | some known =>
    match known.admit now b with
    | .error e => pure (.error e)
    | .ok () => c.submit b sender invoke sign

end ElectionContract

end ChainElection
