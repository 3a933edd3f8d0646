import ChainElection.Election.Tally
import ChainElection.Table

/-!
A worker that decodes the return values of views.

Callers hand in jobs and wait. Jobs and responses travel through two queues and
are matched by numbers: a call reserves a number, registers it, sends its job,
and then waits until the dispatcher comes upon the response of that number. A
caller may stop waiting at any time. Decoder and dispatcher are there as long as
anyone can make a call.

The state changes in steps, one for each thing that a caller, the decoder or
the dispatcher does by itself, so they can be interleaved in every way. A caller
does not wait before its job is sent, so where only tasks are interleaved it
hands in its job in one turn.

* `DecodeWorker.step` is one step, `DecodeWorker.run` a list of them.
* `DecodeWorker.stepsOf` are the steps of a turn, `DecodeWorker.runTurns` is a
  list of turns.
* `DecodeWorker.decodeAll` hands in jobs at once and waits for all of them.
-/

namespace ChainElection

/-- A return value to be decoded, and the view that has returned it. -/
structure DecodeJob where
  view : View
  bytes : List UInt8
  deriving DecidableEq

/-- What decoding gives. -/
abbrev DecodeOutput : Type := Except Binary.Fault Viewed

/-- What a job comes to. -/
def DecodeJob.output (j : DecodeJob) : DecodeOutput := j.view.decode j.bytes

/-- How far a call has come: its number is reserved, or registered too, or the job is sent; then the
caller waits, has given up, or has got an output. -/
inductive CallPhase where
  | reserved
  | registered
  | waiting
  | abandoned
  | completed (o : DecodeOutput)

/-- A call: its job, how far it has come, and how often an output has been handed to it. -/
structure DecodeCall where
  job : DecodeJob
  phase : CallPhase
  deliveries : Nat

/-- What somebody does by himself. -/
inductive DecodeEvent where
  | reserve (job : DecodeJob)
  | register (id : Nat)
  | send (id : Nat)
  | abandon (id : Nat)
  | take
  | decode
  | dispatch

/-- What somebody does from one wait to the next. -/
inductive DecodeTurn where
  | call (job : DecodeJob)
  | abandon (id : Nat)
  | take
  | decode
  | dispatch

/-- The worker with everything under way. -/
structure DecodeWorker where
  nextId : Nat
  calls : Table Nat DecodeCall
  pending : List Nat
  requests : List (Nat × DecodeJob)
  current : Option (Nat × DecodeJob)
  responses : List (Nat × DecodeOutput)

namespace DecodeWorker

/-- A worker that has nothing to do. -/
def idle : DecodeWorker := ⟨0, .empty, [], [], none, []⟩

/-- Writes a call's phase. -/
def goTo (w : DecodeWorker) (id : Nat) (c : DecodeCall) (phase : CallPhase) : DecodeWorker :=
  { w with calls := w.calls.set id { c with phase := phase } }

/-- Hands an output to a call, if its caller still waits. -/
def deliver (w : DecodeWorker) (id : Nat) (o : DecodeOutput) : DecodeWorker :=
  match w.calls.get? id with
  | none => w
  | some c =>
    match c.phase with
    | .waiting => w.goTo id { c with deliveries := c.deliveries + 1 } (.completed o)
    | _ => w

/-- One step, if it can be taken. A response whose number is not registered is dropped. -/
def step (w : DecodeWorker) : DecodeEvent → Option DecodeWorker
  | .reserve job =>
    some { w with nextId := w.nextId + 1, calls := w.calls.set w.nextId ⟨job, .reserved, 0⟩ }
  | .register id =>
    match w.calls.get? id with
    | some ⟨job, .reserved, n⟩ =>
      some { w.goTo id ⟨job, .reserved, n⟩ .registered with pending := id :: w.pending }
    | _ => none
  | .send id =>
    match w.calls.get? id with
    | some ⟨job, .registered, n⟩ =>
      some { w.goTo id ⟨job, .registered, n⟩ .waiting with requests := w.requests ++ [(id, job)] }
    | _ => none
  | .abandon id =>
    match w.calls.get? id with
    | some ⟨job, .waiting, n⟩ => some (w.goTo id ⟨job, .waiting, n⟩ .abandoned)
    | _ => none
  | .take =>
    match w.current, w.requests with
    | none, r :: rs => some { w with current := some r, requests := rs }
    | _, _ => none
  | .decode =>
    match w.current with
    | some (id, job) =>
      some { w with current := none, responses := w.responses ++ [(id, job.output)] }
    | none => none
  | .dispatch =>
    match w.responses with
    | (id, o) :: rs =>
      let w := { w with responses := rs }
      some (if w.pending.contains id then
        { w with pending := w.pending.filter (· ≠ id) }.deliver id o
      else w)
    | [] => none

/-- Many steps; those that cannot be taken are passed over. -/
def run (w : DecodeWorker) (es : List DecodeEvent) : DecodeWorker :=
  es.foldl (fun w e => (w.step e).getD w) w

/-- The steps of a turn. -/
def stepsOf (w : DecodeWorker) : DecodeTurn → List DecodeEvent
  | .call job => [.reserve job, .register w.nextId, .send w.nextId]
  | .abandon id => [.abandon id]
  | .take => [.take]
  | .decode => [.decode]
  | .dispatch => [.dispatch]

/-- Many turns. -/
def runTurns (w : DecodeWorker) (ts : List DecodeTurn) : DecodeWorker :=
  ts.foldl (fun w t => w.run (w.stepsOf t)) w

/-- The output that a call has got. -/
def output? (w : DecodeWorker) (id : Nat) : Option DecodeOutput :=
  match w.calls.get? id with
  | some ⟨_, .completed o, _⟩ => some o
  | _ => none

/-- Hands in a job. -/
def submit (w : DecodeWorker) (job : DecodeJob) : Nat × DecodeWorker :=
  (w.nextId, w.run (w.stepsOf (.call job)))

/-- Lets decoder and dispatcher work off a number of jobs. -/
def workOff (w : DecodeWorker) (n : Nat) : DecodeWorker :=
  w.run ((List.replicate n [.take, .decode, .dispatch]).flatten)

/-- Hands in all jobs at once and waits for their outputs. -/
def decodeAll (jobs : List DecodeJob) : List (Option DecodeOutput) :=
  let (w, ids) := jobs.foldl (fun (w, ids) job =>
    let (id, w) := w.submit job
    (w, ids ++ [id])) (idle, [])
  let w := w.workOff jobs.length
  ids.map w.output?

end DecodeWorker

end ChainElection
