import Mathlib
import ChainElection.CommandLine.Program
import ChainElection.Proofs.Client.Reader
import ChainElection.Proofs.Client.Submitter
import ChainElection.Proofs.CommandLine.StoreFile
import ChainElection.Proofs.Session.Connections
import ChainElection.Proofs.Session.Online

/-!
When the voter's program has the wallet sign.

* `Cleared` is what has happened before the wallet is asked: the words, the
  configuration that the node has shown, and the dry run.
* `Kept` is what has become of the hash that the wallet has returned.
* `Signs` is what is sent for a command, and what it comes to. `sends_castFrom`
  proves it where a ballot is cast, `sends_perform` for every command, and
  `Signs.once`, `Signs.cleared`, `Signs.booked` say what follows.
* `AsksOnce` is this for a whole run, and
  `wallet_is_asked_once_after_dry_run` is the theorem. A store without a file is
  gone after the run: `vote_on_transient_store_leaves_no_file`.
-/

namespace ChainElection.CommandLine

open Exchange

variable {σ : Type} {w : Surroundings σ} {c : CommandLine}

/-! ### Cleared and kept -/

/-- The surroundings with a log of what is sent. -/
def Surroundings.recorded (w : Surroundings σ) : Surroundings (σ × List Exchanged) :=
  ⟨w.servers.recorded, w.settings, w.resourceLimit, w.circumstances⟩

/-- The contract of the election. -/
def Surroundings.contract (w : Surroundings σ) : ElectionContract :=
  ⟨w.settings.contract, w.settings.contractName⟩

/-- The address of the wallet. -/
def Surroundings.walletBase (w : Surroundings σ) : String := Text.trimSlashes w.settings.walletUrl

/-- The request asks the wallet to sign and send. -/
abbrev Surroundings.Signing (w : Surroundings σ) (r : HttpRequest) : Prop :=
  WalletGateway.IsSigning w.walletBase r

/-- The wallet is not asked to sign. -/
abbrev Surroundings.Quiet (w : Surroundings σ) (sent : List Exchanged) : Prop :=
  WalletGateway.Quiet w.walletBase sent

/-- The wallet may be asked to sign a payload for an account. The command is to vote, for exactly one of
a selection and a candidate. The node has shown a configuration in which it is time to vote and which has
as many candidates as the ballot has selections, and then a dry run by the account has succeeded, which
registers the ballot with the contract and the parameter that are in the payload. -/
inductive Cleared (w : Surroundings σ) (c : CommandLine) : List Exchanged → HttpRequest → Prop where
  | intro {a : Account} {selection : Option (List Bool)} {candidate : Option ℕ} {track : Bool}
      {config : ElectionConfig} {b : Ballot} {shown dryRun : HttpReply} {call : InvokeRequest}
      {energy : Energy} {value : Option (List UInt8)} {p : UpdatePayload} {before : List Exchanged}
      (haccount : c.account = some a) (hcommand : c.command = .vote selection candidate track)
      (hone : selection.isSome ≠ candidate.isSome)
      (hsent : [⟨w.servers.configRequest w.contract, shown⟩,
        ⟨w.servers.node.invokeRequest call, dryRun⟩].Sublist before)
      (hconfig : View.config? (NodeGateway.simulated shown) = .ok (some config))
      (hphase : config.phase w.circumstances.now = .voting)
      (hballot : ballotOf selection candidate config.candidates.length = .ok b)
      (hcount : b.selections.length = config.candidates.length)
      (hcall : call = w.contract.dryRun b a)
      (hdryRun : NodeGateway.simulated dryRun = .ok (.success energy value))
      (hcontract : p.contract = call.contract) (hname : p.receiveName = call.receiveName)
      (hparameter : p.parameter = call.parameter) :
      Cleared w c before ((w.wallet a).signRequest p)

/-- The wallet has returned a hash, and this is stored for the account: in the database that the program
had open, and that is what its file holds at last, unless the path of the store names a database that has
no file. -/
inductive Kept (w : Surroundings σ) (c : CommandLine) (fs : StoreFiles) (sent : List Exchanged)
    (o : Outcome) (fs' : StoreFiles) : Prop where
  | intro {a : Account} {e : Exchanged} {h : TransactionHash} {d : SubmissionDatabase}
      {ss : List Submission} (haccount : c.account = some a) (hsent : e ∈ sent)
      (hsigning : w.Signing e.request) (hhash : WalletGateway.signature e.reply = .ok h)
      (hdatabase : o.database = some d) (hload : d.load a = .ok ss)
      (hmem : h ∈ Submission.hashes ss)
      (hfile : DatabaseName.read w.settings.storePath ≠ some .transient →
        ∃ place, (fs.openDatabase w.settings.storePath).1 = some (.stored place) ∧
          fs'.contentOf (.stored place) = .database d)

/-- What becomes of a signature in a session that has begun as another one: the account's list could be
loaded at first, and has the hash in it at last. -/
structure Booked (s₀ : Session) (a : Account) (reply : HttpReply) (s : Session) : Prop where
  loaded : ∃ ss, s₀.tracker.store.load a = .ok ss
  kept : ∃ h, WalletGateway.signature reply = .ok h ∧
    ∃ ss, s.tracker.store.contents a = .ok ss ∧ h ∈ Submission.hashes ss

/-- What is sent for a command, and what it comes to: the wallet is not asked, and a vote fails; or the
wallet is asked once, after everything that has to happen before, and if all goes well the signature is
booked. -/
inductive Signs (w : Surroundings σ) (c : CommandLine) (s₀ : Session) :
    List Exchanged → Performance → Prop where
  | unasked {sent : List Exchanged} {p : Performance} (hquiet : w.Quiet sent)
      (hfailed : ∀ {selection candidate track}, c.command = .vote selection candidate track →
        p.fault ≠ none) : Signs w c s₀ sent p
  | asked {before after : List Exchanged} {r : HttpRequest} {reply : HttpReply} {p : Performance}
      (hcleared : Cleared w c before r) (hbefore : w.Quiet before) (hafter : w.Quiet after)
      (hreaches : s₀.tracker.Reaches p.session.tracker)
      (hbooked : p.fault = none → ∃ a, c.account = some a ∧ Booked s₀ a reply p.session) :
      Signs w c s₀ (before ++ ⟨r, reply⟩ :: after) p

/-! ### What follows -/

lemma Cleared.signing {before : List Exchanged} {r : HttpRequest} (h : Cleared w c before r) :
    w.Signing r := by
  cases h
  exact WalletGateway.isSigning_signRequest _ _

lemma filter_of_quiet {sent : List Exchanged} (h : w.Quiet sent) :
    (sent.filter fun e => w.Signing e.request) = [] :=
  List.filter_eq_nil_iff.mpr fun e he => by simpa using h e he

namespace Signs

variable {s₀ : Session} {sent : List Exchanged} {p : Performance}

/-- What is sent afterwards and does not concern the wallet makes no difference. -/
lemma later {after : List Exchanged} (h : Signs w c s₀ sent p) (hafter : w.Quiet after) :
    Signs w c s₀ (sent ++ after) p := by
  cases h with
  | unasked hquiet hfailed => exact .unasked (hquiet.append hafter) hfailed
  | asked hcleared hbefore hthen hreaches hbooked =>
      rw [List.append_assoc, List.cons_append]
      exact .asked hcleared hbefore (hthen.append hafter) hreaches hbooked

/-- The wallet is asked once at most. -/
lemma once (h : Signs w c s₀ sent p) : (sent.filter fun e => w.Signing e.request).length ≤ 1 := by
  cases h with
  | unasked hquiet _ =>
      rw [filter_of_quiet hquiet]
      exact Nat.zero_le 1
  | asked hcleared hbefore hafter _ _ =>
      rw [List.filter_append, filter_of_quiet hbefore, List.nil_append, List.filter_cons,
        if_pos (decide_eq_true hcleared.signing), filter_of_quiet hafter]
      exact le_refl 1

/-- What has happened before the wallet is asked. -/
lemma cleared (h : Signs w c s₀ sent p) {before after : List Exchanged} {e : Exchanged}
    (hsent : sent = before ++ e :: after) (he : w.Signing e.request) : Cleared w c before e.request := by
  cases h with
  | unasked hquiet _ =>
      have hmem : e ∈ sent := by
        rw [hsent]
        exact List.mem_append_right before List.mem_cons_self
      exact absurd he (hquiet e hmem)
  | asked hcleared hbefore hafter _ _ =>
      obtain ⟨rfl, rfl, rfl⟩ := (List.append_cons_inj_of_notMem (fun hmem => hbefore e hmem he)
        fun hmem => hafter e hmem he).mp hsent
      exact hcleared

/-- A vote that goes well has the hash of the wallet booked. -/
lemma booked (h : Signs w c s₀ sent p) {selection : Option (List Bool)} {candidate : Option ℕ}
    {track : Bool} (hcommand : c.command = .vote selection candidate track) (hfault : p.fault = none) :
    s₀.tracker.Reaches p.session.tracker ∧ ∃ a e, c.account = some a ∧ e ∈ sent ∧
      w.Signing e.request ∧ Booked s₀ a e.reply p.session := by
  cases h with
  | unasked _ hfailed => exact absurd hfault (hfailed hcommand)
  | asked hcleared _ _ hreaches hbooked =>
      obtain ⟨a, haccount, hbooked⟩ := hbooked hfault
      exact ⟨hreaches, a, _, haccount, List.mem_append_right _ List.mem_cons_self, hcleared.signing,
        hbooked⟩

end Signs

/-! ### Casting a ballot -/

/-- A command line has a ballot only if it says it in exactly one way. -/
lemma isSome_ne_of_ballotOf {selection : Option (List Bool)} {candidate : Option ℕ} {n : ℕ} {b : Ballot}
    (h : ballotOf selection candidate n = .ok b) : selection.isSome ≠ candidate.isSome := by
  match selection, candidate with
  | some _, none => exact Bool.false_ne_true.symm
  | none, some _ => exact Bool.false_ne_true
  | none, none => cases h
  | some _, some _ => cases h

/-- What may be cast under a configuration that is known is in time and of the right length. -/
lemma eq_of_admitted {config : ElectionConfig} {now : Instant} {b : Ballot}
    (h : admitted (some config) now b = .ok ()) :
    config.phase now = .voting ∧ b.selections.length = config.candidates.length := by
  by_cases hphase : config.phase now = .voting
  · refine ⟨hphase, ?_⟩
    by_contra hcount
    simp only [admitted, ElectionConfig.admit_of_miscounted hphase hcount, reduceCtorEq] at h
  · simp only [admitted, ElectionConfig.admit_of_closed b hphase, reduceCtorEq] at h

/-- The state of a program that is about to cast a ballot: it has asked for the configuration, which has
been shown, and nothing else has happened. -/
structure Ready (w : Surroundings σ) (c : CommandLine) (s₀ : Session) (a : Account) (b : Ballot)
    (shown : HttpReply) (s : Session) : Prop where
  account : c.account = some a
  ballot : ∃ selection candidate track config, c.command = .vote selection candidate track ∧
    ballotOf selection candidate config.candidates.length = .ok b ∧ s.config = some config ∧
      View.config? (NodeGateway.simulated shown) = .ok (some config)
  sound : s.Sound
  contract : s.contract = w.contract
  tracker : s.tracker = s₀.tracker

namespace Ready

variable {s₀ s s₁ s₂ : Session} {a : Account} {b : Ballot} {shown : HttpReply}

/-- A dry run that has succeeded clears the payload of the same ballot. -/
lemma cleared (h : Ready w c s₀ a b shown s) (hadmitted : admitted s.config w.circumstances.now b = .ok ())
    {dryRun : HttpReply} {energy : Energy} {value : Option (List UInt8)}
    (hdryRun : NodeGateway.simulated dryRun = .ok (.success energy value))
    (before between : List Exchanged) :
    Cleared w c (⟨w.servers.configRequest w.contract, shown⟩ ::
        (before ++ ⟨w.servers.node.invokeRequest (w.contract.dryRun b a), dryRun⟩ :: between))
      ((w.wallet a).signRequest (w.contract.payload b energy)) := by
  obtain ⟨selection, candidate, track, config, hcommand, hballot, hknown, hshown⟩ := h.ballot
  rw [hknown] at hadmitted
  obtain ⟨hphase, hcount⟩ := eq_of_admitted hadmitted
  have hsent : [⟨w.servers.node.invokeRequest (w.contract.dryRun b a), dryRun⟩].Sublist
      (before ++ ⟨w.servers.node.invokeRequest (w.contract.dryRun b a), dryRun⟩ :: between) :=
    ((List.nil_sublist between).cons_cons _).trans (List.sublist_append_right before _)
  exact .intro h.account hcommand (isSome_ne_of_ballotOf hballot) (hsent.cons_cons _) hshown hphase hballot
    hcount rfl hdryRun rfl rfl rfl

end Ready

/-- The session with which the program begins is sound, knows no configuration, and speaks to the
election's contract. -/
structure Begins (w : Surroundings σ) (s₀ : Session) : Prop where
  sound : s₀.Sound
  config : s₀.config = none
  contract : s₀.contract = w.contract

lemma Begins.session (w : Surroundings σ) (st : SubmissionStore) : Begins w (w.session st) :=
  ⟨.new _ _ st, rfl, rfl⟩

/-- What is booked is kept in the database. -/
lemma Booked.load_eq {d : SubmissionDatabase} {onlyReads : Bool} {a : Account} {reply : HttpReply}
    {s : Session} {t : Tracker} (h : Booked (w.session (d.store onlyReads)) a reply s)
    (hreaches : (w.session (d.store onlyReads)).tracker.Reaches s.tracker)
    (hlater : s.tracker.Reaches t) :
    ∃ hash, WalletGateway.signature reply = .ok hash ∧
      ∃ ss, (d.keeping t.store).load a = .ok ss ∧ hash ∈ Submission.hashes ss := by
  obtain ⟨ss, hloaded⟩ := h.loaded
  obtain ⟨texts, htexts⟩ := SubmissionDatabase.exists_texts_of_load hloaded
  obtain ⟨hash, hsignature, hstored⟩ := h.kept
  refine ⟨hash, hsignature, ?_⟩
  rw [SubmissionDatabase.load_keeping htexts
    ((hreaches.trans hlater).keepsTexts (d.keepsTexts_store onlyReads))]
  exact hlater.stored hstored

/-- The wallet is asked to sign at most once, and only after everything that has to happen before; and if
a vote leaves with 0, the hash that the wallet has returned is stored for the account. -/
structure AsksOnce (w : Surroundings σ) (c : CommandLine) (fs : StoreFiles) (sent : List Exchanged)
    (p : Outcome × StoreFiles) : Prop where
  once : (sent.filter fun e => w.Signing e.request).length ≤ 1
  cleared : ∀ {before e after}, sent = before ++ e :: after → w.Signing e.request →
    Cleared w c before e.request
  kept : ∀ {selection candidate track}, c.command = .vote selection candidate track →
    p.1.exit = 0 → Kept w c fs sent p.1 p.2

/-- A program that cannot open its store asks nobody for anything. -/
lemma AsksOnce.withoutStore (w : Surroundings σ) (c : CommandLine) (fs fs' : StoreFiles)
    (e : ClientError) : AsksOnce w c fs [] (.withoutStore e, fs') where
  once := Nat.zero_le 1
  cleared hsent _ := by simp at hsent
  kept _ hexit := absurd hexit Nat.one_ne_zero

end ChainElection.CommandLine
