import ChainElection.Http.Gateway
import ChainElection.Session.Basic

/-!
Sessions over HTTP: whatever a session asks for is asked of the servers.

A refresh and a vote are driven to their ends. Monitors go on at the same time:
a schedule says which of them take a turn while a vote waits, and a turn makes
one request at most. A transaction that never comes to its end and a ballot that
is never judged would be waited for for ever; patience bounds how many turns of
a monitor are waited for.

* `Servers.refresh`, `Servers.vote` drive a session.
* `Servers.turn` lets one monitor take a turn, `Servers.turns` several of them in
  any order; `Servers.monitor` drives one to its end.
-/

namespace ChainElection

/-- The servers that a client speaks to. -/
structure Servers (σ : Type) where
  exchange : Exchange σ
  node : NodeGateway
  verifier : VerifierGateway

/-- The monitors that take a turn, by their numbers and in order: while a vote waits for its dry run,
while it waits for the wallet, after that, and while the session is being left. -/
structure Schedule where
  dryRunning : List Nat
  signing : List Nat
  following : List Nat
  leaving : List Nat
  deriving DecidableEq, Inhabited

/-- What a session over HTTP depends on besides the servers: when its monitors take their turns, how long
they are waited for, and the times at which a vote is judged and at which it is recorded. -/
structure Circumstances where
  schedule : Schedule
  patience : Nat
  now : ClockTime
  later : ClockTime

namespace Servers

variable {σ : Type}

/-- Asks for the configuration and takes the answer. -/
def refresh (sv : Servers σ) (s : Session) : StateM σ (RefreshResult × Session) := do
  let answer ← sv.node.invoke sv.exchange (s.contract.viewRequest .config)
  let (id, s) := s.refresh
  match s.endRefresh id answer with
  | some after => pure ((Session.refreshed s.config answer).2, after)
  | none => pure (.ok none, s)

/-- Fetches the candidates, after asking for the configuration if it is not known. -/
def candidates (sv : Servers σ) (limit : Nat) (s : Session) :
    StateM σ (Except ClientError (List Candidate) × Session) := do
  match s.config with
  | some c => pure (.ok (← Candidate.fetchAll sv.exchange limit c), s)
  | none =>
    match ← sv.refresh s with
    | (.error e, s) => pure (.error e, s)
    | (.ok none, s) => pure (.ok [], s)
    | (.ok (some c), s) => pure (.ok (← Candidate.fetchAll sv.exchange limit c), s)

/-! ### Monitors -/

/-- What happens to a monitor next, as the servers have it; nothing if that is not decided yet. -/
def nextEvent (sv : Servers σ) (m : Monitor) : StateM σ (Option MonitorEvent) := do
  match m.phase with
  | .ready => pure (some .start)
  | .awaitingFinality =>
    pure ((← sv.node.awaitFinality sv.exchange m.hash 1).map .finalized)
  | .polling _ => pure (some (.answered (← sv.verifier.submissionStatus sv.exchange m.hash)))
  | .sleeping _ => pure (some (.awoken none))
  | .ended _ => pure none

/-- Lets a monitor take a turn, if it is there and something happens to it. -/
def turn (sv : Servers σ) (id : Nat) (s : Session) : StateM σ Session := do
  match s.tracker.monitors.get? id with
  | none => pure s
  | some m =>
    match ← sv.nextEvent m with
    | none => pure s
    | some event => pure ((s.stepMonitor id event).getD s)

/-- Lets monitors take turns, one after the other. -/
def turns (sv : Servers σ) : List Nat → Session → StateM σ Session
  | [], s => pure s
  | id :: ids, s => do sv.turns ids (← sv.turn id s)

/-- Drives a monitor to its end, as far as patience goes. -/
def monitor (sv : Servers σ) (id : Nat) : Nat → Session → StateM σ Session
  | 0, s => pure s
  | patience + 1, s => do
    if (s.tracker.monitors.get? id).any Monitor.isRunning then
      sv.monitor id patience (← sv.turn id s)
    else pure s

/-- Drives monitors to their ends, one after the other. -/
def monitorAll (sv : Servers σ) (patience : Nat) : List Nat → Session → StateM σ Session
  | [], s => pure s
  | id :: ids, s => do sv.monitorAll patience ids (← sv.monitor id patience s)

/-! ### Votes -/

/-- Answers the dry run of a vote that waits for one. -/
def answerDryRun (sv : Servers σ) (now : ClockTime) (id : Nat) (s : Session) :
    StateM σ Session := do
  match s.votes.get? id with
  | some ⟨b, .dryRunning c⟩ =>
    let answer ← sv.node.invoke sv.exchange (s.contract.dryRun b c.account)
    pure ((s.stepVote id (.dryRun answer) now).getD s)
  | _ => pure s

/-- Has the wallet sign for a vote that waits for it. The payload is the last one that was sent out. -/
def answerWallet (sv : Servers σ) (wallet : WalletGateway) (later : ClockTime) (id : Nat)
    (s : Session) : StateM σ Session := do
  match s.votes.get? id, s.sent.getLast? with
  | some ⟨_, .signing _⟩, some (_, p) =>
    let answer ← wallet.sign sv.exchange p
    pure ((s.stepVote id (.signed answer) later).getD s)
  | _, _ => pure s

/-- What a vote has come to once it is over. -/
def resultOf (s : Session) (id : Nat) : VoteResult :=
  match s.votes.get? id with
  | some ⟨_, .ended r⟩ => r
  | _ => .error .workerGone

/-- Casts a ballot and drives the vote to its end, while monitors take their turns. -/
def vote (sv : Servers σ) (wallet : WalletGateway) (w : Circumstances) (b : Ballot) (s : Session) :
    StateM σ (VoteResult × Session) := do
  let (id, s) := s.castVote b
  let s := (s.stepVote id .start w.now).getD s
  let s ← sv.turns w.schedule.dryRunning s
  let s ← sv.answerDryRun w.now id s
  let s ← sv.turns w.schedule.signing s
  let s ← sv.answerWallet wallet w.later id s
  pure (resultOf s id, s)

end Servers

end ChainElection
