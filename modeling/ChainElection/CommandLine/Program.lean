import ChainElection.CommandLine.Options
import ChainElection.CommandLine.StoreFile
import ChainElection.Files.Database
import ChainElection.Session.Online

/-!
The voter's program: one command, from its words to what it prints.

The program opens its store, does what the command says, and leaves with a
number: 0 if all went well, 1 if something went wrong on the way, 2 if the
words make no sense. Everything that it printed before something went wrong
stays printed. What a vote has sent is in the store when it leaves with 0.
Monitors that are still going when the program leaves are aborted with the
connection.

* `CommandLine.perform` does what a command says, `CommandLine.run` is the whole
  program.
-/

namespace ChainElection

/-- Why the program leaves early. -/
inductive CommandFault where
  | client (e : ClientError)
  | noAccount
  | noConfiguration
  | notOneBallot
  | brokeDown
  | unfinished
  deriving DecidableEq

/-- What is said of the fault. -/
def CommandFault.message : CommandFault → String
  | .client e => e.message
  | .noAccount => "Missing --account argument"
  | .noConfiguration => "Election config is not available"
  | .notOneBallot => "Pass exactly one of --selection or --candidate"
  | .brokeDown => "monitor broke down"
  | .unfinished => "still waiting"

/-- How far a command has come: what it has printed, why it stopped early if it did, and the session
after it. -/
structure Performance where
  printed : List String
  fault : Option CommandFault
  session : Session

namespace Performance

/-- Goes on after what was printed before, unless that has stopped early. -/
def after {σ : Type} (p : Performance) (next : Session → StateM σ Performance) :
    StateM σ Performance := do
  match p.fault with
  | some _ => pure p
  | none =>
    let q ← next p.session
    pure { q with printed := p.printed ++ q.printed }

end Performance

namespace CommandLine

variable {σ : Type}

/-- What the program needs besides its words: the servers, its settings, the limit of resources, and the
circumstances. -/
structure Surroundings (σ : Type) where
  servers : Servers σ
  settings : Settings
  resourceLimit : Nat
  circumstances : Circumstances

/-- Stops with an error of the client. -/
def stop (s : Session) (e : ClientError) : Performance := ⟨[], some (.client e), s⟩

/-- Prints lines and is done. -/
def print (s : Session) (lines : List String) : Performance := ⟨lines, none, s⟩

/-- How a submission is printed. -/
def submissionLine (s : Submission) : String :=
  s!"{s.hash.text} {s.status.text} {s.submittedAt.offsetText}"

/-- How an update is printed. -/
def updateLine (u : StatusUpdate) : String := s!"{u.hash.text} -> {u.status.text}"

/-- Prints the submissions of an account. -/
def printSubmissions (a : Account) (s : Session) : Performance :=
  match s.tracker.submissions a with
  | .error e => stop s e
  | .ok ss => print s (ss.map submissionLine)

/-- The wallet of an account. -/
def Surroundings.wallet (w : Surroundings σ) (a : Account) : WalletGateway :=
  .ofUrl w.settings.walletUrl a w.settings.network

/-- Shows what an answer to a view's call means. -/
def showView (s : Session) (answer : Except ClientError InvokeResult) : View → Performance
  | .config =>
    match View.config? answer with
    | .error e => stop s e
    | .ok c => print s [(Outline.ofOption ElectionConfig.outline c).pretty]
  | .guardians =>
    match View.guardians? answer with
    | .error e => stop s e
    | .ok gs => print s [(Outline.ofOption Guardians.outline gs).pretty]
  | .tally =>
    match View.tally? answer with
    | .error e => stop s e
    | .ok (some (some t)) => print s [Hex.text t]
    | .ok _ => print s ["No encrypted tally registered"]
  | .result =>
    match View.result? answer with
    | .error e => stop s e
    | .ok r => print s [(Outline.ofOption ElectionResult.outline r).pretty]

/-- Performs the view command. -/
def performView (w : Surroundings σ) (v : View) (s : Session) : StateM σ Performance := do
  let answer ← w.servers.node.invoke w.servers.exchange (s.contract.viewRequest v)
  pure (showView s answer v)

/-- Performs the candidates command. -/
def performCandidates (w : Surroundings σ) (s : Session) : StateM σ Performance := do
  match ← w.servers.candidates w.resourceLimit s with
  | (.error e, s) => pure (stop s e)
  | (.ok cs, s) => pure (print s (cs.map fun c => s!"{c.index}: {c.details.name}"))

/-- The ballot that a command means, for a number of candidates. -/
def ballotOf (selection : Option (List Bool)) (candidate : Option Nat) (count : Nat) :
    Except CommandFault Ballot :=
  let judged (r : Except BallotFault Ballot) : Except CommandFault Ballot :=
    match r with
    | .error f => .error (.client (.invalidBallot f))
    | .ok b => .ok b
  match selection, candidate with
  | some bs, none => judged (Ballot.of bs)
  | none, some i => judged (Ballot.single i count)
  | _, _ => .error .notOneBallot

/-- How a monitor has ended, as far as the program cares. -/
def endOf (s : Session) (id : Nat) : Option CommandFault :=
  match (s.tracker.monitors.get? id).map Monitor.phase with
  | some (.ended how) =>
    match how.result with
    | some (.ok ()) => none
    | some (.error e) => some (.client e)
    | none => some .brokeDown
  | _ => some .unfinished

/-- Waits for the monitor of a vote and prints the submissions. -/
def follow (w : Surroundings σ) (a : Account) (started : Option Nat) (s : Session) :
    StateM σ Performance := do
  match started with
  | none => pure (printSubmissions a s)
  | some id =>
    let s ← w.servers.monitor id w.circumstances.patience s
    match endOf s id with
    | some f => pure ⟨[], some f, s⟩
    | none => pure (printSubmissions a s)

/-- Casts a ballot from an account and prints what was sent. -/
def castFrom (w : Surroundings σ) (a : Account) (b : Ballot) (track : Bool) (s : Session) :
    StateM σ Performance := do
  match s.connect 0 a with
  | (.error e, s) => pure (stop s e)
  | (.ok _, s) =>
    match ← w.servers.vote (w.wallet a) w.circumstances b s with
    | (.error e, s) => pure (stop s e)
    | (.ok (h, started), s) =>
      let s ← w.servers.turns w.circumstances.schedule.following s
      (print s [s!"Transaction sent: {h.text}"]).after fun s =>
        if track then follow w a started s else pure (print s [])

/-- Performs the vote command. -/
def performVote (w : Surroundings σ) (a : Account) (selection : Option (List Bool))
    (candidate : Option Nat) (track : Bool) (s : Session) : StateM σ Performance := do
  match ← w.servers.refresh s with
  | (.error e, s) => pure (stop s e)
  | (.ok none, s) => pure ⟨[], some .noConfiguration, s⟩
  | (.ok (some c), s) =>
    match ballotOf selection candidate c.candidates.length with
    | .error f => pure ⟨[], some f, s⟩
    | .ok b => castFrom w a b track s

/-- Why waiting for a monitor fails. That the monitor itself has failed is no reason. -/
def waitFault (s : Session) (id : Nat) : Option CommandFault :=
  match endOf s id with
  | some (.client _) => none
  | f => f

/-- Performs the track command: resumes the monitors of an account and waits for all of them. -/
def performTrack (w : Surroundings σ) (a : Account) (s : Session) : StateM σ Performance := do
  match s.connect 0 a with
  | (.error e, s) => pure (stop s e)
  | (.ok started, s) =>
    let s ← w.servers.turns w.circumstances.schedule.following s
    let s ← w.servers.monitorAll w.circumstances.patience started s
    (print s (s.tracker.updates.map updateLine)).after fun s =>
      match started.findSome? (waitFault s) with
      | some f => pure ⟨[], some f, s⟩
      | none => pure (printSubmissions a s)

/-- Performs the submissions command. -/
def performSubmissions (w : Surroundings σ) (a : Account) (s : Session) :
    StateM σ Performance := do
  match ← w.servers.verifier.submissions w.servers.exchange a with
  | .error e => pure (stop s e)
  | .ok rs =>
    (print s (rs.map fun r => r.toJson.text)).after fun s => pure (printSubmissions a s)

/-- Does what a command says. Most commands need an account. -/
def perform (w : Surroundings σ) (account : Option Account) (s : Session) :
    Command → StateM σ Performance
  | .view v => performView w v s
  | .candidates => performCandidates w s
  | command =>
    match account with
    | none => pure ⟨[], some .noAccount, s⟩
    | some a =>
      match command with
      | .vote selection candidate track => performVote w a selection candidate track s
      | .track => performTrack w a s
      | .submissions => performSubmissions w a s
      | _ => pure (print s [])

/-- The files in which submissions are kept. -/
abbrev StoreFiles : Type := FileSystem StoreFile

/-- What the program leaves behind: its number, what it has printed, why it left early, and what its
database held at last, if it was opened. -/
structure Outcome where
  exit : Nat
  printed : List String
  fault : Option CommandFault
  database : Option SubmissionDatabase

/-- What a performance leaves behind, on a database. -/
def Outcome.ofPerformance (p : Performance) (d : SubmissionDatabase) : Outcome :=
  ⟨if p.fault.isSome then 1 else 0, p.printed, p.fault, some d⟩

/-- What the program leaves behind if its store cannot be opened. -/
def Outcome.withoutStore (e : ClientError) : Outcome := ⟨1, [], some (.client e), none⟩

/-- What the program leaves behind if it does nothing for its words. -/
def Outcome.idle (exit : Nat) : Outcome := ⟨exit, [], none, none⟩

/-- The session that the program begins with. -/
def Surroundings.session (w : Surroundings σ) (st : SubmissionStore) : Session :=
  .new ⟨w.settings.contract, w.settings.contractName⟩
    (.empty ⟨w.settings.pollInterval, w.settings.maxPolls⟩ st)

/-- What words that make sense say of the surroundings. -/
def surroundings (ex : Exchange σ) (circumstances : Circumstances) (env : Environment)
    (c : CommandLine) : Surroundings σ :=
  let settings := c.settings env
  ⟨⟨ex, .ofUrl settings.nodeUrl, .ofUrl settings.backendUrl⟩, settings,
    Settings.resourceLimit env, circumstances⟩

/-- Runs the program with words that make sense, on a database that is open. When it leaves it ends its
connection, and monitors may take their last turns. -/
def runOn (w : Surroundings σ) (c : CommandLine) (d : SubmissionDatabase) (onlyReads : Bool) :
    StateM σ Outcome := do
  let p ← perform w c.account (w.session (d.store onlyReads)) c.command
  let s ← w.servers.turns w.circumstances.schedule.leaving p.session.disconnect
  pure (.ofPerformance p (d.keeping s.tracker.store))

/-- Runs the program among files. Whoever asks for help gets it, and nothing else is done. -/
def run (ex : Exchange σ) (circumstances : Circumstances) (env : Environment) (words : List String)
    (fs : StoreFiles) : StateM σ (Outcome × StoreFiles) := do
  match read env words with
  | .error .helpWanted => pure (.idle 0, fs)
  | .error _ => pure (.idle 2, fs)
  | .ok c =>
    let path := (c.settings env).storePath
    let onlyReads := DatabaseName.onlyReads path
    match fs.openDatabase path with
    | (none, fs) => pure (.withoutStore .storage, fs)
    | (some h, fs) =>
      match (fs.contentOf h).opened onlyReads with
      | (.error e, content) => pure (.withoutStore e, fs.writeContent h content)
      | (.ok d, _) =>
        let o ← runOn (surroundings ex circumstances env c) c d onlyReads
        pure (o, fs.writeContent h (.database (o.database.getD d)))

end CommandLine

end ChainElection
