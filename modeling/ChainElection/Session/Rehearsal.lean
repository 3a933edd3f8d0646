import ChainElection.Http.Gateway
import ChainElection.Session.Basic

/-!
Rehearsals: a session among others that say what they were told to say.

The node, the verification service and the wallets answer from a script, at
once or when a line of theirs is given, and the clock moves only when it is
told to. Between the steps of a rehearsal everything runs until nothing can go
on: first the votes in the order in which they were cast, then the monitors in
the order in which they were started.

* `Rehearsal.settle` lets everything run.
* `Rehearsal.advance` moves the clock; sleeping monitors whose time has come
  poll once.
-/

namespace ChainElection

/-- What the node and the verification service say, by the full names of entry points and by hashes. -/
structure Script where
  views : Table String (Except ClientError InvokeResult)
  outcomes : Table TransactionHash (Except ClientError TransactionOutcome)
  records : Table TransactionHash (Except ClientError SubmissionRecord)

namespace Script

/-- The script without a word. -/
def empty : Script := ⟨.empty, .empty, .empty⟩

/-- The answer to a simulated call: one that is not in the script fails. -/
def invoke (s : Script) (r : InvokeRequest) : Except ClientError InvokeResult :=
  (s.views.get? r.receiveName).getD (.ok (.failure ⟨0⟩ "NoSuchView"))

/-- The answer to a poll: nothing is known of what is not in the script. -/
def poll (s : Script) (h : TransactionHash) : Except ClientError (Option SubmissionRecord) :=
  match s.records.get? h with
  | none => .ok none
  | some (.ok r) => .ok (some r)
  | some (.error e) => .error e

end Script

/-- What a wallet does when it is asked to sign: it answers, or leaves the answer for later. -/
inductive WalletCue where
  | answer (a : Except ClientError TransactionHash)
  | hesitate

/-- A wallet with its cues, the answers it was given for later, and the votes that wait for one. -/
structure ScriptedWallet where
  account : Account
  cues : List WalletCue
  approvals : List (Except ClientError TransactionHash)
  waiting : List Nat

namespace ScriptedWallet

/-- A wallet that nobody has asked yet. -/
def new (a : Account) (cues : List WalletCue) : ScriptedWallet := ⟨a, cues, [], []⟩

/-- What is answered when the cues are used up. -/
def exhausted : Except ClientError TransactionHash := .error (.walletRejected "script over")

/-- Asks for a signature: the answer, or the vote waits for it. -/
def ask (w : ScriptedWallet) (vote : Nat) :
    Option (Except ClientError TransactionHash) × ScriptedWallet :=
  match w.cues with
  | [] => (some exhausted, w)
  | .answer a :: cues => (some a, { w with cues := cues })
  | .hesitate :: cues => (none, { w with cues := cues, waiting := w.waiting ++ [vote] })

/-- The answer for a vote that waits, if it is its turn. -/
def hear (w : ScriptedWallet) (vote : Nat) :
    Option (Except ClientError TransactionHash) × ScriptedWallet :=
  match w.waiting, w.approvals with
  | v :: vs, a :: as =>
    if v = vote then (some a, { w with waiting := vs, approvals := as }) else (none, w)
  | _, _ => (none, w)

end ScriptedWallet

/-- A session with everything around it: the script, the wallets by number, the clock and the alarms of
sleeping monitors, the instant of the present, and the guards that were taken under names. -/
structure Rehearsal where
  session : Session
  script : Script
  wallets : List ScriptedWallet
  clock : Nat
  alarms : Table Nat Nat
  present : ClockTime
  guards : Table String (Nat × Guard)

namespace Rehearsal

/-- A rehearsal that begins. -/
def new (contract : ElectionContract) (settings : TrackerSettings) (store : SubmissionStore)
    (present : ClockTime) : Rehearsal :=
  ⟨.new contract (.empty settings store), .empty, [], 0, .empty, present, .empty⟩

/-- The tracker. -/
def tracker (r : Rehearsal) : Tracker := r.session.tracker

/-- Writes the tracker. -/
def withTracker (r : Rehearsal) (t : Tracker) : Rehearsal :=
  { r with session := { r.session with tracker := t } }

/-! ### Votes -/

/-- Lets a vote take a step, if it can. -/
def tellVote (r : Rehearsal) (id : Nat) (event : VoteEvent) : Rehearsal :=
  match r.session.stepVote id event r.present with
  | some s => { r with session := s }
  | none => r

/-- Answers the dry run of a vote that waits for one. -/
def answerDryRun (r : Rehearsal) (id : Nat) : Rehearsal :=
  match r.session.votes.get? id with
  | some ⟨b, .dryRunning c⟩ =>
    r.tellVote id (.dryRun (r.script.invoke (r.session.contract.dryRun b c.account)))
  | _ => r

/-- Writes what a wallet says and has become. -/
def heed (r : Rehearsal) (id wallet : Nat)
    (said : Option (Except ClientError TransactionHash) × ScriptedWallet) : Rehearsal :=
  let r := { r with wallets := r.wallets.set wallet said.2 }
  match said.1 with
  | some a => r.tellVote id (.signed a)
  | none => r

/-- Lets the wallet of a vote that waits for one speak. -/
def answerWallet (r : Rehearsal) (id : Nat) : Rehearsal :=
  match r.session.votes.get? id with
  | some ⟨_, .signing c⟩ =>
    match r.wallets[c.wallet]? with
    | none => r
    | some w => if w.waiting.contains id then r.heed id c.wallet (w.hear id) else r
  | _ => r

/-- Has the wallet of a vote asked, if it has not been yet. -/
def askWallet (r : Rehearsal) (id : Nat) : Rehearsal :=
  match r.session.votes.get? id with
  | some ⟨_, .signing c⟩ =>
    match r.wallets[c.wallet]? with
    | none => r
    | some w => if w.waiting.contains id then r else r.heed id c.wallet (w.ask id)
  | _ => r

/-- Lets a vote run until it waits. -/
def runVote (r : Rehearsal) (id : Nat) : Rehearsal :=
  (((r.tellVote id .start).answerDryRun id).askWallet id).answerWallet id

/-! ### Monitors -/

/-- What happens to a monitor next, if anything: the end of its scope comes before all else. -/
def nextEvent (r : Rehearsal) (id : Nat) (m : Monitor) : Option MonitorEvent :=
  match m.phase with
  | .ready => some .start
  | .ended _ => none
  | phase =>
    if r.tracker.scopes.isAborted m.signal then some .aborted
    else
      match phase with
      | .awaitingFinality => (r.script.outcomes.get? m.hash).map .finalized
      | .polling _ => some (.answered (r.script.poll m.hash))
      | .sleeping _ =>
        match r.alarms.get? id with
        | some t => if t ≤ r.clock then some (.awoken none) else none
        | none => none
      | _ => none

/-- Sets the alarm of a monitor that has just fallen asleep. -/
def setAlarm (r : Rehearsal) (id : Nat) (event : MonitorEvent) : Rehearsal :=
  match event, (r.tracker.monitors.get? id).map Monitor.phase with
  | .answered _, some (.sleeping _) =>
    { r with alarms := r.alarms.set id (r.clock + r.tracker.settings.pollInterval) }
  | _, _ => r

/-- Lets a monitor go on for a number of steps, or until it waits. -/
def runMonitor (r : Rehearsal) (id : Nat) : Nat → Rehearsal
  | 0 => r
  | n + 1 =>
    match r.tracker.monitors.get? id with
    | none => r
    | some m =>
      match r.nextEvent id m with
      | none => r
      | some event =>
        match r.session.stepMonitor id event with
        | none => r
        | some s => ({ r with session := s }.setAlarm id event).runMonitor id n

/-- How many steps a monitor may take at a time. Without a sleep in between it takes fewer. -/
def stepsAtATime : Nat := 100

/-- Lets everything run until it waits. -/
def settle (r : Rehearsal) : Rehearsal :=
  let r := (List.range r.session.nextVote).foldl runVote r
  (List.range r.tracker.nextMonitor).foldl (fun r id => r.runMonitor id stepsAtATime) r

/-- Lets everything run, moves the clock, and lets everything run again. -/
def advance (r : Rehearsal) (span : Nat) : Rehearsal :=
  let r := r.settle
  { r with clock := r.clock + span }.settle

/-! ### What can be done -/

/-- Takes a guard of an account under a name; the guard that had the name before is released. -/
def acquire (r : Rehearsal) (name : String) (a : Account) : Rehearsal :=
  let (g, t) := r.tracker.acquire a
  let t := match r.guards.get? name with
    | some (old, _) => t.release old
    | none => t
  match t.scopes.guards.get? g with
  | none => r.withTracker t
  | some guard => { r.withTracker t with guards := r.guards.set name (g, guard) }

/-- Releases the guard of a name. -/
def release (r : Rehearsal) (name : String) : Rehearsal :=
  match r.guards.get? name with
  | some (g, _) => r.withTracker (r.tracker.release g)
  | none => r

/-- Is the signal of a name's guard aborted? -/
def isAborted (r : Rehearsal) (name : String) : Bool :=
  match r.guards.get? name with
  | some (_, guard) => r.tracker.scopes.isAborted guard.signal
  | none => false

/-- Starts the monitors of a guard's account. -/
def init (r : Rehearsal) (name : String) : Except ClientError (List Nat) × Rehearsal :=
  match r.guards.get? name with
  | none => (.ok [], r)
  | some (_, guard) =>
    match r.tracker.init guard with
    | .error e => (.error e, r)
    | .ok (started, t) => (.ok started, r.withTracker t)

/-- Records a submission under a guard and starts its monitor. -/
def add (r : Rehearsal) (name : String) (h : TransactionHash) :
    Except ClientError (List Nat) × Rehearsal :=
  match r.guards.get? name with
  | none => (.ok [], r)
  | some (_, guard) =>
    match r.tracker.add guard h r.present with
    | .error e => (.error e, r)
    | .ok (started, t) => (.ok started.toList, r.withTracker t)

/-- Saves a list behind the tracker's back. -/
def save (r : Rehearsal) (a : Account) (ss : List Submission) :
    Except ClientError Unit × Rehearsal :=
  match r.tracker.store.save a ss with
  | .error e => (.error e, r)
  | .ok store => (.ok (), r.withTracker { r.tracker with store := store })

/-- Overwrites the text that is stored for an account. -/
def overwrite (r : Rehearsal) (a : Account) (s : String) : Rehearsal :=
  r.withTracker { r.tracker with store := r.tracker.store.overwrite a s }

/-- Connects a new wallet. -/
def connect (r : Rehearsal) (a : Account) (cues : List WalletCue) :
    Except ClientError (List Nat) × Rehearsal :=
  let (started, s) := r.session.connect r.wallets.length a
  (started, { r with session := s, wallets := r.wallets ++ [.new a cues] })

/-- Gives a wallet an answer for later. -/
def approve (r : Rehearsal) (wallet : Nat) (a : Except ClientError TransactionHash) : Rehearsal :=
  match r.wallets[wallet]? with
  | none => r
  | some w => { r with wallets := r.wallets.set wallet { w with approvals := w.approvals ++ [a] } }

/-- Asks for the configuration and takes the answer. -/
def refresh (r : Rehearsal) : RefreshResult × Rehearsal :=
  let answer := r.script.invoke (r.session.contract.viewRequest .config)
  let (id, s) := r.session.refresh
  match s.endRefresh id answer with
  | some s => ((Session.refreshed r.session.config answer).2, { r with session := s })
  | none => (.ok none, { r with session := s })

/-- Fetches the candidates of the election, after asking for the configuration if it is not known. -/
def candidates {σ : Type} (r : Rehearsal) (ex : Exchange σ) (limit : Nat) :
    StateM σ (Except ClientError (List Candidate) × Rehearsal) := do
  match r.session.config with
  | some c => pure (.ok (← Candidate.fetchAll ex limit c), r)
  | none =>
    match r.refresh with
    | (.error e, r) => pure (.error e, r)
    | (.ok none, r) => pure (.ok [], r)
    | (.ok (some c), r) => pure (.ok (← Candidate.fetchAll ex limit c), r)

end Rehearsal

end ChainElection
