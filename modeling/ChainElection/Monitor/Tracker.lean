import ChainElection.Monitor.Scope
import ChainElection.Submission.Record
import ChainElection.Submission.Store

/-!
Monitors: what walks submissions from broadcast to verification.

Each submission that has not come to its end gets one monitor, which waits for
the transaction to be finalized, then polls the verification service. A
monitor belongs to the scope under whose guard it was started; once the scope's
signal is aborted it stops at the next place where it waits, and writes nothing
more. A claim says which monitor a submission has; the claim of an aborted
scope can be taken over.

The state changes in steps. A step is what one task does from one wait to the
next, so tasks can be interleaved in every way:

* `Tracker.init` starts monitors for the pending submissions of a guard's
  account, `Tracker.add` records a submission and starts its monitor;
* `Tracker.step` lets a monitor go on with what it was waiting for: `Tracker.turn`
  says what it does and becomes, `Tracker.place` writes it down;
* `Tracker.kill` ends a monitor from outside.

A monitor counts what it has done. Every change of the store is announced by
one update; `Tracker.updates` lists them in order.
-/

namespace ChainElection

/-- What monitors are told: how long to sleep between polls, and how often to poll at most. -/
structure TrackerSettings where
  pollInterval : Nat
  maxPolls : Option UInt32
  deriving DecidableEq, Inhabited

/-- Who is to blame for a monitor's failure: the node, the verification service, the store, or the
monitor itself, if the step that it was about to take is not a legal one. -/
inductive Culprit where
  | node
  | verifier
  | store
  | monitor
  deriving DecidableEq

/-- Why a monitor ended: its submission has come to its end, is not stored, or belongs to an aborted
scope; the polls that it may make are used up; something failed; it was ended from outside; or its count
of polls does not fit its word any more, and it broke down. -/
inductive MonitorEnd where
  | settled
  | missing
  | aborted
  | outOfPolls
  | failed (culprit : Culprit) (e : ClientError)
  | killed
  | brokeDown
  deriving DecidableEq

/-- What a monitor comes to; nothing if it was killed or broke down. -/
def MonitorEnd.result : MonitorEnd → Option (Except ClientError Unit)
  | .settled | .missing | .aborted | .outOfPolls => some (.ok ())
  | .failed _ e => some (.error e)
  | .killed | .brokeDown => none

/-- Where a monitor is: about to run for the first time, waiting for finality, waiting for the answer
to a poll, asleep after a number of polls, or at its end. -/
inductive MonitorPhase where
  | ready
  | awaitingFinality
  | polling (polls : UInt32)
  | sleeping (polls : UInt32)
  | ended (how : MonitorEnd)
  deriving DecidableEq

/-- What a monitor has done so far: rounds of its loop, waits for finality, polls, and writes. -/
structure Effort where
  rounds : Nat
  waits : Nat
  polls : Nat
  writes : Nat
  deriving DecidableEq, Repr

/-- A monitor: of which submission, under which signal, by which claim. -/
structure Monitor where
  account : Account
  hash : TransactionHash
  signal : Nat
  claim : Nat
  phase : MonitorPhase
  effort : Effort
  deriving DecidableEq

namespace Monitor

/-- Is the monitor still going? -/
def isRunning (m : Monitor) : Bool :=
  match m.phase with
  | .ended _ => false
  | _ => true

/-- Is the monitor waiting for something that the abortion of its signal cuts short? -/
def isWaiting (m : Monitor) : Bool :=
  match m.phase with
  | .awaitingFinality | .polling _ | .sleeping _ => true
  | _ => false

/-- The submission that the monitor is for. -/
def key (m : Monitor) : Account × TransactionHash := (m.account, m.hash)

/-- A monitor that has just been started. -/
def fresh (a : Account) (h : TransactionHash) (signal claim : Nat) : Monitor :=
  ⟨a, h, signal, claim, .ready, ⟨0, 0, 0, 0⟩⟩

/-- The monitor in another phase. -/
def goTo (m : Monitor) (phase : MonitorPhase) : Monitor := { m with phase := phase }

/-- The monitor at its end. -/
def finish (m : Monitor) (how : MonitorEnd) : Monitor := m.goTo (.ended how)

/-- The monitor after it has given up a poll that was just made: its answer is not waited for, but it may
have failed at once. -/
def abandonPoll (m : Monitor) (failure : Option ClientError) : Monitor :=
  match m.phase with
  | .polling _ => m.finish (failure.elim .aborted (.failed .verifier))
  | _ => m

end Monitor

/-- The claim on a submission. -/
structure Claim where
  id : Nat
  signal : Nat
  deriving DecidableEq, Repr

/-- The announcement that a submission has a new status. -/
structure StatusUpdate where
  account : Account
  hash : TransactionHash
  status : SubmissionStatus
  deriving DecidableEq

/-- All monitors with what they share. -/
structure Tracker where
  settings : TrackerSettings
  scopes : Scopes
  store : SubmissionStore
  claims : Table (Account × TransactionHash) Claim
  nextClaim : Nat
  monitors : Table Nat Monitor
  nextMonitor : Nat
  updates : List StatusUpdate
  deriving DecidableEq

/-- What a monitor was waiting for: its turn to start, finality, the answer to a poll, the end of its
sleep, with the failure that the next poll meets at once if there is one, or the abortion of its
signal. -/
inductive MonitorEvent where
  | start
  | finalized (outcome : Except ClientError TransactionOutcome)
  | answered (record : Except ClientError (Option SubmissionRecord))
  | awoken (failure : Option ClientError)
  | aborted

namespace Tracker

/-- A tracker that has nothing to do. -/
def empty (settings : TrackerSettings) (store : SubmissionStore) : Tracker :=
  ⟨settings, .empty, store, .empty, 0, .empty, 0, []⟩

/-- The stored submissions of an account. -/
def submissions (t : Tracker) (a : Account) : Except ClientError (List Submission) :=
  t.store.load a

/-! ### Starting monitors -/

/-- Is a submission free to be claimed? -/
def isFree (t : Tracker) (key : Account × TransactionHash) : Bool :=
  match t.claims.get? key with
  | none => true
  | some c => t.scopes.isAborted c.signal

/-- Claims a submission and starts its monitor, unless another one has it. -/
def start (t : Tracker) (a : Account) (h : TransactionHash) (signal : Nat) :
    Option Nat × Tracker :=
  let id := t.nextClaim
  let t := { t with nextClaim := id + 1 }
  if t.isFree (a, h) then
    (some t.nextMonitor,
      { t with
        claims := t.claims.set (a, h) ⟨id, signal⟩
        monitors := t.monitors.set t.nextMonitor (.fresh a h signal id)
        nextMonitor := t.nextMonitor + 1 })
  else (none, t)

/-- Starts the monitors of a list of submissions, one after the other. -/
def startAll (t : Tracker) (a : Account) (signal : Nat) : List TransactionHash → List Nat × Tracker
  | [] => ([], t)
  | h :: r =>
    match t.start a h signal with
    | (started, t) =>
      match t.startAll a signal r with
      | (ms, t) => (started.toList ++ ms, t)

/-- The submissions that have not come to their end, in order. -/
def pending (ss : List Submission) : List TransactionHash :=
  (ss.filter fun s => !s.status.isFinal).map Submission.hash

/-- Starts monitors for the pending submissions of a guard's account that have none. -/
def init (t : Tracker) (g : Guard) : Except ClientError (List Nat × Tracker) :=
  match t.store.load g.account with
  | .error e => .error e
  | .ok ss => .ok (t.startAll g.account g.signal (pending ss))

/-- Records a submission that was just sent, if it is new. -/
def record (t : Tracker) (a : Account) (h : TransactionHash) (now : ClockTime) :
    Except ClientError Tracker :=
  match t.store.load a with
  | .error e => .error e
  | .ok ss =>
    if ss.any fun s => s.hash == h then .ok t
    else
      match t.store.save a (ss ++ [Submission.fresh h now]) with
      | .error e => .error e
      | .ok store =>
        .ok { t with store := store, updates := t.updates ++ [⟨a, h, .committed⟩] }

/-- Records a submission that was just sent and starts its monitor. -/
def add (t : Tracker) (g : Guard) (h : TransactionHash) (now : ClockTime) :
    Except ClientError (Option Nat × Tracker) :=
  match t.record g.account h now with
  | .error e => .error e
  | .ok t => .ok (t.start g.account h g.signal)

/-! ### Running monitors -/

/-- The claims without that of a monitor, unless someone else has taken it over. -/
def withoutClaim (t : Tracker) (m : Monitor) : Table (Account × TransactionHash) Claim :=
  match t.claims.get? m.key with
  | some c => if c.id = m.claim then t.claims.erase m.key else t.claims
  | none => t.claims

/-- Writes a monitor; the claim of one that has ended goes. -/
def place (t : Tracker) (id : Nat) (m : Monitor) : Tracker :=
  { t with
    monitors := t.monitors.set id m
    claims := if m.isRunning then t.claims else t.withoutClaim m }

/-- Moves the first submission of a hash to a status, if that is legal; the outer option says whether
there is one. -/
def moveFirst (h : TransactionHash) (next : SubmissionStatus) :
    List Submission → Option (Except ClientError (List Submission))
  | [] => none
  | s :: r =>
    if s.hash = h then
      match s.move next with
      | some s => some (.ok (s :: r))
      | none => some (.error (.illegalTransition h s.status next))
    else (moveFirst h next r).map fun x => x.map (s :: ·)

/-- Moves the stored submission of a monitor to a status and announces it. Nothing is done if the
submission is not stored any more. -/
def persist (t : Tracker) (m : Monitor) (next : SubmissionStatus) :
    Except (Culprit × ClientError) (Tracker × Monitor) :=
  match t.store.load m.account with
  | .error e => .error (.store, e)
  | .ok ss =>
    match moveFirst m.hash next ss with
    | none => .ok (t, m)
    | some (.error e) => .error (.monitor, e)
    | some (.ok ss) =>
      match t.store.save m.account ss with
      | .error e => .error (.store, e)
      | .ok store =>
        .ok ({ t with store := store, updates := t.updates ++ [⟨m.account, m.hash, next⟩] },
          { m with effort := { m.effort with writes := m.effort.writes + 1 } })

/-- The status of the first stored submission of a monitor. -/
def statusOf (t : Tracker) (m : Monitor) : Except ClientError (Option SubmissionStatus) :=
  match t.store.load m.account with
  | .error e => .error e
  | .ok ss => .ok ((ss.find? fun s => s.hash == m.hash).map Submission.status)

/-- Makes the next poll, unless the budget is used up. -/
def poll (t : Tracker) (m : Monitor) (polls : UInt32) : Monitor :=
  if t.settings.maxPolls.any fun budget => budget ≤ polls then m.finish .outOfPolls
  else if polls.toNat = Numeral.max32 then m.finish .brokeDown
  else
    { m with effort := { m.effort with polls := m.effort.polls + 1 } }.goTo (.polling (polls + 1))

/-- Begins a round of the loop: looks up the status and goes for what is next. -/
def beginRound (t : Tracker) (m : Monitor) : Monitor :=
  let m := { m with effort := { m.effort with rounds := m.effort.rounds + 1 } }
  if t.scopes.isAborted m.signal then m.finish .aborted
  else
    match t.statusOf m with
    | .error e => m.finish (.failed .store e)
    | .ok none => m.finish .missing
    | .ok (some .committed) =>
      { m with effort := { m.effort with waits := m.effort.waits + 1 } }.goTo .awaitingFinality
    | .ok (some .approved) => t.poll m 0
    | .ok (some _) => m.finish .settled

/-- Ends a round: moves the submission on and begins the next round. -/
def endRound (t : Tracker) (m : Monitor) (next : SubmissionStatus) : Tracker × Monitor :=
  match t.persist m next with
  | .error (culprit, e) => (t, m.finish (.failed culprit e))
  | .ok (t, m) => (t, t.beginRound m)

/-- The status that an outcome leads to. -/
def statusAfter : TransactionOutcome → SubmissionStatus
  | .success => .approved
  | .failure _ => .rejected

/-- The status that a verdict leads to. -/
def statusOfVerdict (verified : Bool) : SubmissionStatus :=
  if verified then .verified else .discarded

/-- Goes on after finality, unless the signal is aborted by now. -/
def afterFinality (t : Tracker) (m : Monitor) :
    Except ClientError TransactionOutcome → Tracker × Monitor
  | .error e => (t, m.finish (.failed .node e))
  | .ok outcome =>
    if t.scopes.isAborted m.signal then (t, m.finish .aborted)
    else t.endRound m (statusAfter outcome)

/-- Goes on after the answer to a poll, unless the signal is aborted by now. -/
def afterPoll (t : Tracker) (m : Monitor) (polls : UInt32) :
    Except ClientError (Option SubmissionRecord) → Tracker × Monitor
  | .error e => (t, m.finish (.failed .verifier e))
  | .ok record =>
    if t.scopes.isAborted m.signal then (t, m.finish .aborted)
    else
      match record with
      | some r => t.endRound m (statusOfVerdict r.verified)
      | none => (t, m.goTo (.sleeping polls))

/-- Goes on after a sleep: with the next poll, which is given up at once if the signal is aborted by
now. -/
def afterSleep (t : Tracker) (m : Monitor) (polls : UInt32) (failure : Option ClientError) : Monitor :=
  if t.scopes.isAborted m.signal then (t.poll m polls).abandonPoll failure else t.poll m polls

/-- What a monitor does and becomes after something it was waiting for; nothing if it was not waiting
for that. -/
def turn (t : Tracker) (m : Monitor) (event : MonitorEvent) : Option (Tracker × Monitor) :=
  match m.phase, event with
  | .ready, .start => some (t, t.beginRound m)
  | .awaitingFinality, .finalized answer => some (t.afterFinality m answer)
  | .polling polls, .answered answer => some (t.afterPoll m polls answer)
  | .sleeping polls, .awoken failure => some (t, t.afterSleep m polls failure)
  | _, .aborted =>
    if m.isWaiting && t.scopes.isAborted m.signal then some (t, m.finish .aborted) else none
  | _, _ => none

/-- Lets a monitor go on after something it was waiting for; nothing if it was not waiting for that. -/
def step (t : Tracker) (id : Nat) (event : MonitorEvent) : Option Tracker :=
  match t.monitors.get? id with
  | none => none
  | some m => (t.turn m event).map fun (t, m) => t.place id m

/-- Ends a monitor from outside; nothing if it has ended. -/
def kill (t : Tracker) (id : Nat) : Option Tracker :=
  match t.monitors.get? id with
  | none => none
  | some m => if m.isRunning then some (t.place id (m.finish .killed)) else none

/-! ### Guards and totals -/

/-- A guard of an account, by its number. -/
def acquire (t : Tracker) (a : Account) : Nat × Tracker :=
  let (g, scopes) := t.scopes.acquire a
  (g, { t with scopes := scopes })

/-- Takes a guard back. -/
def release (t : Tracker) (g : Nat) : Tracker := { t with scopes := t.scopes.release g }

/-- How often monitors have waited for finality. -/
def waits (t : Tracker) : Nat := t.monitors.values.foldr (fun m n => m.effort.waits + n) 0

/-- How often monitors have polled. -/
def polls (t : Tracker) : Nat := t.monitors.values.foldr (fun m n => m.effort.polls + n) 0

end Tracker

/-! ### Listening to updates -/

/-- How many updates a listener can be behind before it loses some. -/
def updateCapacity : Nat := 64

/-- What a listener gets who has seen `seen` of the updates: how many it lost, the oldest first, and
the rest. -/
def Tracker.unseen (t : Tracker) (seen : Nat) : Nat × List StatusUpdate :=
  let new := t.updates.drop seen
  let lost := new.length - updateCapacity
  (lost, new.drop lost)

end ChainElection
