import ChainElection.Http.Gateway

/-!
Waiting for a transaction to be finalized, one thing after the other.

A request is sent. If the answer is that the transaction is still pending, one
interval is slept, and the next request is due. Nothing limits the number of
requests.

* `WaitPhase` is how far the wait is, and `WaitEvent` is something that was done.
* `NodeGateway.goOn` does what is next; `NodeGateway.wait` does a number of things.
-/

namespace ChainElection

/-- How far a wait is: a request is due, or an interval is to be slept, or it is over. -/
inductive WaitPhase where
  | due
  | pausing
  | over (outcome : Except ClientError TransactionOutcome)

/-- What is done while waiting: a request is sent and something comes back, or an interval is slept. -/
inductive WaitEvent where
  | sent (e : Exchanged)
  | slept (interval : Nat)

/-- A wait: the state of the exchange, what was done so far, and how far it is. -/
structure Wait (σ : Type) where
  surroundings : σ
  events : List WaitEvent
  phase : WaitPhase

namespace Wait

variable {σ : Type}

/-- A wait that begins. -/
def start (s : σ) : Wait σ := ⟨s, [], .due⟩

/-- What the wait has come to, if it is over. -/
def outcome? (w : Wait σ) : Option (Except ClientError TransactionOutcome) :=
  match w.phase with
  | .over o => some o
  | _ => none

end Wait

namespace NodeGateway

variable {σ : Type}

/-- What is next once it has been judged what came back. -/
def nextPhase : Option (Except ClientError TransactionOutcome) → WaitPhase
  | none => .pausing
  | some o => .over o

/-- Does what is next. -/
def goOn (n : NodeGateway) (interval : Nat) (ex : Exchange σ) (h : TransactionHash) (w : Wait σ) :
    Wait σ :=
  match w.phase with
  | .over _ => w
  | .pausing => { w with events := w.events ++ [.slept interval], phase := .due }
  | .due =>
    let (a, s, sent) := ex.recorded.ask (n.finalityRequest h) (w.surroundings, [])
    ⟨s, w.events ++ sent.map .sent, nextPhase (judge h a)⟩

/-- A wait after a number of things that were done. -/
def wait (n : NodeGateway) (interval : Nat) (ex : Exchange σ) (h : TransactionHash) (s : σ) :
    Nat → Wait σ
  | 0 => .start s
  | k + 1 => n.goOn interval ex h (n.wait interval ex h s k)

end NodeGateway

end ChainElection
