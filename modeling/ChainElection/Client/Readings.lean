import ChainElection.Client.DecodeWorker
import ChainElection.Client.Reader

/-!
Readings of views that are under way at the same time.

A reading waits for the node. What it does with the bytes that come back depends
on its reader: it decodes them by itself, or hands them to a worker and waits for
the output. The worker is shared with the other readings, and with calls that
have nothing to do with readings.

* `Readings.step` is one step, `Readings.run` a list of them. What the worker
  does, and what other callers do, are steps of their own, so everything can be
  interleaved in every way. A caller that stops waiting takes the step
  `DecodeEvent.abandon`.
* `Readings.read` is a reading from beginning to end while nothing else goes on.
-/

namespace ChainElection

/-- How far a reading is: it waits for the node, or for the output of a number, or it has ended. -/
inductive ReadingPhase where
  | asking
  | decoding (id : Nat)
  | ended (result : Except ClientError (Option Viewed))

/-- A reading of a view: whether the worker is to decode for it, what the node is going to answer, and
how far it is. -/
structure Reading where
  view : View
  shared : Bool
  answer : Except ClientError InvokeResult
  phase : ReadingPhase

/-- What happens: a reading starts, its answer comes, it takes its output, or somebody does something
with the worker. -/
inductive ReadingEvent where
  | start (view : View) (shared : Bool) (answer : Except ClientError InvokeResult)
  | answered (k : Nat)
  | collect (k : Nat)
  | work (e : DecodeEvent)

/-- All readings, each under its place, and the worker. -/
structure Readings where
  readings : List Reading
  worker : DecodeWorker

namespace Readings

/-- No readings, and a worker that has nothing to do. -/
def idle : Readings := ⟨[], .idle⟩

/-- Writes a reading's phase. -/
def goTo (rs : Readings) (k : Nat) (r : Reading) (phase : ReadingPhase) : Readings :=
  { rs with readings := rs.readings.set k { r with phase := phase } }

/-- Goes on after the node's answer. Bytes for the worker get the next number. -/
def afterAnswer (rs : Readings) (k : Nat) (r : Reading) : Readings :=
  match r.view.returned r.answer with
  | .error e => rs.goTo k r (.ended (.error e))
  | .ok none => rs.goTo k r (.ended (.ok none))
  | .ok (some bs) =>
    if r.shared then
      let worker := rs.worker.run [.reserve ⟨r.view, bs⟩]
      { rs.goTo k r (.decoding rs.worker.nextId) with worker := worker }
    else rs.goTo k r (.ended ((r.view.decoded (r.view.decode bs)).map some))

/-- One step, if it can be taken. -/
def step (rs : Readings) : ReadingEvent → Option Readings
  | .start v shared answer => some { rs with readings := rs.readings ++ [⟨v, shared, answer, .asking⟩] }
  | .answered k =>
    match rs.readings[k]? with
    | some ⟨v, shared, answer, .asking⟩ => some (rs.afterAnswer k ⟨v, shared, answer, .asking⟩)
    | _ => none
  | .collect k =>
    match rs.readings[k]? with
    | some ⟨v, shared, answer, .decoding id⟩ =>
      (rs.worker.output? id).map fun o =>
        rs.goTo k ⟨v, shared, answer, .decoding id⟩ (.ended ((v.decoded o).map some))
    | _ => none
  | .work e => (rs.worker.step e).map fun w => { rs with worker := w }

/-- Many steps; those that cannot be taken are passed over. -/
def run (rs : Readings) (es : List ReadingEvent) : Readings :=
  es.foldl (fun rs e => (rs.step e).getD rs) rs

/-- What a reading has come to. -/
def result? (rs : Readings) (k : Nat) : Option (Except ClientError (Option Viewed)) :=
  match rs.readings[k]? with
  | some ⟨_, _, _, .ended result⟩ => some result
  | _ => none

/-- Reads a view while nothing else goes on. -/
def read (rs : Readings) (v : View) (shared : Bool) (answer : Except ClientError InvokeResult) :
    Option (Except ClientError (Option Viewed)) × Readings :=
  let k := rs.readings.length
  let id := rs.worker.nextId
  let rs := rs.run [.start v shared answer, .answered k, .work (.register id), .work (.send id),
    .work .take, .work .decode, .work .dispatch, .collect k]
  (rs.result? k, rs)

end Readings

end ChainElection
