import ChainElection.Monitor.Run
import ChainElection.Session.Basic

/-!
Runs of a session.

Wallets come and go, the configuration is asked for, votes are cast and go on
when the node or their wallet answers, and monitors take their steps. Others may
use the session's tracker too, but they cannot release a guard that the session
holds.

* `Session.act` is one such event, or nothing if it cannot happen;
  `Session.run` is a sequence of them.
* `Session.invokedBy` and `Session.sentBy` are what one vote asks of the node
  and of wallets in the course of a run.
* `Session.runShared` is a sequence of events in between which others do
  something to the store.
-/

namespace ChainElection

/-- What can happen to a session. Votes and requests for the configuration go by their numbers. -/
inductive SessionAction where
  | connect (wallet : Nat) (a : Account)
  | disconnect
  | refresh
  | endRefresh (id : Nat) (answer : Except ClientError InvokeResult)
  | cast (b : Ballot)
  | vote (id : Nat) (event : VoteEvent) (now : ClockTime)
  | track (x : TrackerAction)

/-- Is a vote let go on by the event? -/
def SessionAction.isOfVote (id : Nat) : SessionAction → Bool
  | .vote k _ _ => k == id
  | _ => false

namespace Session

/-- May this happen to the tracker? A guard is released only by its holder. -/
def mayTrack (s : Session) : TrackerAction → Bool
  | .release g => !s.holdsGuard g
  | _ => true

/-- The session after one event; nothing if it cannot happen. -/
def act (s : Session) : SessionAction → Option Session
  | .connect wallet a => some (s.connect wallet a).2
  | .disconnect => some s.disconnect
  | .refresh => some s.refresh.2
  | .endRefresh id answer => s.endRefresh id answer
  | .cast b => some (s.castVote b).2
  | .vote id event now => s.stepVote id event now
  | .track x =>
    if s.mayTrack x then (s.tracker.act x).map fun t => { s with tracker := t } else none

/-- The session after a sequence of events. -/
def run (s : Session) : List SessionAction → Option Session
  | [] => some s
  | x :: r => (s.act x).bind fun s => s.run r

/-- The simulated calls that a vote makes in a run. -/
def invokedBy (id : Nat) (s : Session) : List SessionAction → List InvokeRequest
  | [] => []
  | x :: r =>
    match s.act x with
    | none => []
    | some s' =>
      (if x.isOfVote id then s'.invoked.drop s.invoked.length else []) ++ s'.invokedBy id r

/-- What a vote hands to wallets in a run, each with the number of the wallet. -/
def sentBy (id : Nat) (s : Session) : List SessionAction → List (Nat × UpdatePayload)
  | [] => []
  | x :: r =>
    match s.act x with
    | none => []
    | some s' => (if x.isOfVote id then s'.sent.drop s.sent.length else []) ++ s'.sentBy id r

/-! ### Others at the store -/

/-- The session after someone else has done something to the store. -/
def withStore (s : Session) (st : SubmissionStore) : Session :=
  { s with tracker := { s.tracker with store := st } }

end Session

/-- What can happen where a session is not alone with its store: something happens to the session, or
others leave the store as it is then. -/
inductive SharedAction where
  | own (x : SessionAction)
  | others (st : SubmissionStore)

namespace Session

/-- The session after such an event; nothing if it cannot happen. -/
def actShared (s : Session) : SharedAction → Option Session
  | .own x => s.act x
  | .others st => some (s.withStore st)

/-- The session after a sequence of such events. -/
def runShared (s : Session) : List SharedAction → Option Session
  | [] => some s
  | x :: r => (s.actShared x).bind fun s => s.runShared r

end Session

end ChainElection
