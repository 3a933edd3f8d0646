import ChainElection.Client.Reader
import ChainElection.Client.Submitter
import ChainElection.Monitor.Tracker

/-!
Sessions: one client with the election's configuration, the wallet that is
connected, and the votes under way.

Connecting a wallet takes a guard of its account and resumes the monitoring of
the account's submissions. A vote takes along the wallet and the guard of the
connection that it starts from, so it ends with that account even if the
session has moved on; the guard is released when neither the connection nor a
vote holds it any more.

The state changes in steps, one from each wait of a task to the next:

* `Session.connect`, `Session.disconnect` change the connection;
* `Session.refresh`, `Session.endRefresh` ask for the configuration and take
  what comes;
* `Session.castVote`, `Session.stepVote` start a vote and let it go on.
-/

namespace ChainElection

/-- A wallet that is connected, by its number, its account, and the guard taken for it. -/
structure Connection where
  wallet : Nat
  account : Account
  guard : Nat
  deriving DecidableEq

/-- What a vote comes to: the hash of the transaction and the monitor that was started for it. -/
abbrev VoteResult : Type := Except ClientError (TransactionHash × Option Nat)

/-- Where a vote is: about to start, waiting for its dry run, waiting for the wallet, or at its end. -/
inductive VotePhase where
  | ready
  | dryRunning (c : Connection)
  | signing (c : Connection)
  | ended (r : VoteResult)

/-- A vote. -/
structure Vote where
  ballot : Ballot
  phase : VotePhase

/-- What a vote was waiting for: its turn to start, the answer to its dry run, or the wallet's. -/
inductive VoteEvent where
  | start
  | dryRun (answer : Except ClientError InvokeResult)
  | signed (answer : Except ClientError TransactionHash)

namespace Vote

/-- The connection that a vote holds on to. -/
def connection? (v : Vote) : Option Connection :=
  match v.phase with
  | .dryRunning c => some c
  | .signing c => some c
  | _ => none

end Vote

/-- What a refresh of the configuration comes to. -/
abbrev RefreshResult : Type := Except ClientError (Option ElectionConfig)

/-- A session, with the calls and the payloads that it has sent out so far. -/
structure Session where
  contract : ElectionContract
  tracker : Tracker
  config : Option ElectionConfig
  connection : Option Connection
  votes : Table Nat Vote
  nextVote : Nat
  refreshes : Table Nat (Option RefreshResult)
  nextRefresh : Nat
  invoked : List InvokeRequest
  sent : List (Nat × UpdatePayload)

namespace Session

/-- A session that has just begun. -/
def new (contract : ElectionContract) (tracker : Tracker) : Session :=
  ⟨contract, tracker, none, none, .empty, 0, .empty, 0, [], []⟩

/-- The account that is connected. -/
def account (s : Session) : Option Account := s.connection.map Connection.account

/-- The submissions of the account that is connected. -/
def submissions (s : Session) : Except ClientError (List Submission) :=
  match s.account with
  | none => .error .notConnected
  | some a => s.tracker.submissions a

/-! ### Guards -/

/-- Does the connection or a vote hold the guard? -/
def holdsGuard (s : Session) (g : Nat) : Bool :=
  s.connection.any (fun c => c.guard == g) ||
    s.votes.values.any fun v => v.connection?.any fun c => c.guard == g

/-- Releases a guard that nobody holds any more. -/
def letGo (s : Session) (g : Nat) : Session :=
  if s.holdsGuard g then s else { s with tracker := s.tracker.release g }

/-- Writes the connection and lets go of the guard of the one before. -/
def reconnect (s : Session) (c : Option Connection) : Session :=
  let old := s.connection
  let s := { s with connection := c }
  match old with
  | none => s
  | some o => s.letGo o.guard

/-- Connects a wallet. If monitoring cannot be resumed, the connection stays what it was. -/
def connect (s : Session) (wallet : Nat) (a : Account) : Except ClientError (List Nat) × Session :=
  let (g, tracker) := s.tracker.acquire a
  match tracker.scopes.guards.get? g with
  | none => (.ok [], { s with tracker := tracker })
  | some guard =>
    match tracker.init guard with
    | .error e => (.error e, { s with tracker := tracker.release g })
    | .ok (started, tracker) =>
      (.ok started, ({ s with tracker := tracker } : Session).reconnect (some ⟨wallet, a, g⟩))

/-- Ends the connection. -/
def disconnect (s : Session) : Session := s.reconnect none

/-! ### The configuration -/

/-- Asks for the configuration. -/
def refresh (s : Session) : Nat × Session :=
  (s.nextRefresh,
    { s with
      refreshes := s.refreshes.set s.nextRefresh none
      nextRefresh := s.nextRefresh + 1
      invoked := s.invoked ++ [s.contract.viewRequest .config] })

/-- What an answer makes of the configuration, and what the refresh comes to. A view that is not
available yet leaves the configuration as it is. -/
def refreshed (config : Option ElectionConfig) (answer : Except ClientError InvokeResult) :
    Option ElectionConfig × RefreshResult :=
  match View.config? answer with
  | .error e => (config, .error e)
  | .ok none => (config, .ok config)
  | .ok (some c) => (some c, .ok (some c))

/-- Ends a refresh with the answer that has come. -/
def endRefresh (s : Session) (id : Nat) (answer : Except ClientError InvokeResult) :
    Option Session :=
  match s.refreshes.get? id with
  | some none =>
    let (config, r) := refreshed s.config answer
    some { s with config := config, refreshes := s.refreshes.set id (some r) }
  | _ => none

/-! ### Votes -/

/-- Puts a vote on its way. -/
def castVote (s : Session) (b : Ballot) : Nat × Session :=
  (s.nextVote,
    { s with votes := s.votes.set s.nextVote ⟨b, .ready⟩, nextVote := s.nextVote + 1 })

/-- Writes a vote's phase. -/
def goTo (s : Session) (id : Nat) (v : Vote) (phase : VotePhase) : Session :=
  { s with votes := s.votes.set id { v with phase := phase } }

/-- Ends a vote and lets go of its guard. -/
def endVote (s : Session) (id : Nat) (v : Vote) (c : Connection) (r : VoteResult) : Session :=
  (s.goTo id v (.ended r)).letGo c.guard

/-- Starts a vote: it needs a connection, and a ballot that may be cast now. -/
def startVote (s : Session) (id : Nat) (v : Vote) (now : ClockTime) : Session :=
  match s.connection with
  | none => s.goTo id v (.ended (.error .notConnected))
  | some c =>
    match admitted s.config now v.ballot with
    | .error e => s.goTo id v (.ended (.error e))
    | .ok () =>
      { s.goTo id v (.dryRunning c) with
        invoked := s.invoked ++ [s.contract.dryRun v.ballot c.account] }

/-- Goes on after the dry run. -/
def afterDryRun (s : Session) (id : Nat) (v : Vote) (c : Connection)
    (answer : Except ClientError InvokeResult) : Session :=
  match s.contract.afterDryRun v.ballot answer with
  | .error e => s.endVote id v c (.error e)
  | .ok p => { s.goTo id v (.signing c) with sent := s.sent ++ [(c.wallet, p)] }

/-- Goes on after the wallet has answered: a transaction that was sent is recorded and monitored. -/
def afterSigning (s : Session) (id : Nat) (v : Vote) (c : Connection) (now : ClockTime)
    (answer : Except ClientError TransactionHash) : Session :=
  match answer with
  | .error e => s.endVote id v c (.error e)
  | .ok h =>
    match s.tracker.scopes.guards.get? c.guard with
    | none => s.endVote id v c (.ok (h, none))
    | some g =>
      match s.tracker.add g h now with
      | .error e => s.endVote id v c (.error e)
      | .ok (started, tracker) =>
        ({ s with tracker := tracker } : Session).endVote id v c (.ok (h, started))

/-- Lets a vote go on after something it was waiting for; nothing if it was not waiting for that. -/
def stepVote (s : Session) (id : Nat) (event : VoteEvent) (now : ClockTime) : Option Session :=
  match s.votes.get? id with
  | none => none
  | some v =>
    match v.phase, event with
    | .ready, .start => some (s.startVote id v now)
    | .dryRunning c, .dryRun answer => some (s.afterDryRun id v c answer)
    | .signing c, .signed answer => some (s.afterSigning id v c now answer)
    | _, _ => none

/-- Lets a monitor go on after something it was waiting for. -/
def stepMonitor (s : Session) (id : Nat) (event : MonitorEvent) : Option Session :=
  (s.tracker.step id event).map fun t => { s with tracker := t }

end Session

end ChainElection
