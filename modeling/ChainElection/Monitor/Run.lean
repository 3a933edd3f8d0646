import ChainElection.Monitor.Tracker

/-!
Runs of scopes, and of a tracker with them.

Guards are taken and released, for any account and in any order. Those who use a
tracker do this too, and under a guard that is alive they resume the monitoring
of its account or add a submission. In between, monitors take their steps in any
order, some may be killed, and the store gets out of order and back into it.

* `Scopes.act` and `Tracker.act` are one such event, or nothing if it cannot
  happen.
* `Scopes.run` and `Tracker.run` are a sequence of them.
-/

namespace ChainElection

/-- What can happen to scopes. Guards go by their numbers. -/
inductive ScopeAction where
  | acquire (a : Account)
  | release (guard : Nat)
  deriving DecidableEq

namespace Scopes

/-- The scopes after one event; nothing if the guard is not alive. -/
def act (s : Scopes) : ScopeAction → Option Scopes
  | .acquire a => some (s.acquire a).2
  | .release g => (s.guards.get? g).map fun _ => s.release g

/-- The scopes after a sequence of events. -/
def run (s : Scopes) : List ScopeAction → Option Scopes
  | [] => some s
  | x :: r => (s.act x).bind fun s => s.run r

/-- For whom a guard is taken or released. -/
def accountOf (s : Scopes) : ScopeAction → Option Account
  | .acquire a => some a
  | .release g => (s.guards.get? g).map Guard.account

end Scopes

/-- What can happen to a tracker. Guards and monitors go by their numbers. -/
inductive TrackerAction where
  | acquire (a : Account)
  | release (guard : Nat)
  | init (guard : Nat)
  | add (guard : Nat) (h : TransactionHash) (now : ClockTime)
  | step (monitor : Nat) (event : MonitorEvent)
  | kill (monitor : Nat)
  | upset (load save reload : Option ClientError)

namespace Tracker

/-- The tracker after what may have failed: a failure leaves it as it is. -/
def orElse {α : Type} (t : Tracker) : Except ClientError (α × Tracker) → Tracker
  | .ok (_, t) => t
  | .error _ => t

/-- The tracker after one event; nothing if the guard is not alive, or if the monitor does not wait for
what is said to happen to it. -/
def act (t : Tracker) : TrackerAction → Option Tracker
  | .acquire a => some (t.acquire a).2
  | .release g => (t.scopes.guards.get? g).map fun _ => t.release g
  | .init g => (t.scopes.guards.get? g).map fun guard => t.orElse (t.init guard)
  | .add g h now => (t.scopes.guards.get? g).map fun guard => t.orElse (t.add guard h now)
  | .step id event => t.step id event
  | .kill id => t.kill id
  | .upset load save reload => some { t with store := t.store.upset load save reload }

/-- The tracker after a sequence of events. -/
def run (t : Tracker) : List TrackerAction → Option Tracker
  | [] => some t
  | x :: r => (t.act x).bind fun t => t.run r

/-- For whom something happens to a tracker: an account, or everyone. -/
def accountOf (t : Tracker) : TrackerAction → Option Account
  | .acquire a => some a
  | .release g | .init g | .add g _ _ => (t.scopes.guards.get? g).map Guard.account
  | .step id _ | .kill id => (t.monitors.get? id).map Monitor.account
  | .upset _ _ _ => none

end Tracker

end ChainElection
