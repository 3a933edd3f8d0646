import Mathlib.Tactic
import ChainElection.Client.Submitter
import ChainElection.Proofs.Election.Messages

/-!
What is asked of a node and of a wallet for a ballot.

Submitting is followed from outside: whoever answers may answer in any way, or
never, and everything that is asked is noted.

* `BallotParties` are a node and a wallet, and `BallotAttempt` is what there is to
  see of an attempt to submit a ballot: what comes of it, if anything does, and
  what was asked of whom.
* `submit_of_dryRun` says what an attempt is, by what `afterDryRun` makes of the
  node's answer.
* `ballots_are_signed_as_simulated` is the theorem: one dry run, at most one
  signature, and the signature is for what was simulated. Ballots that are too
  long to be written are refused before: `uncountable_ballot_is_not_simulated`.
-/

namespace ChainElection

/-- What is asked for a ballot: a dry run, or a signature. -/
inductive BallotQuestion where
  | dryRun (r : InvokeRequest)
  | signature (p : UpdatePayload)
  deriving DecidableEq

/-- A node and a wallet, and everything that their answers depend on. There may be no answer at all. -/
structure BallotParties (σ : Type) where
  node : InvokeRequest → σ → Option (Except ClientError InvokeResult) × σ
  wallet : UpdatePayload → σ → Option (Except ClientError TransactionHash) × σ

/-- An attempt to submit a ballot: its result, unless an answer never came, the questions that were
asked, and what has become of the parties. -/
structure BallotAttempt (σ : Type) where
  result : Option (Except ClientError TransactionHash)
  asked : List BallotQuestion
  after : σ

namespace BallotParties

variable {σ : Type} (parties : BallotParties σ) (c : ElectionContract) (b : Ballot) (sender : Account)
  (s : σ)

/-- Waits for an answer, and notes the question. -/
def ask {α β : Type} (question : α → BallotQuestion) (answer : α → σ → Option β × σ) (x : α) :
    OptionT (StateM (σ × List BallotQuestion)) β :=
  fun now => ((answer x now.1).1, (answer x now.1).2, now.2 ++ [question x])

/-- Follows an attempt from its beginning. -/
def follow (attempt : OptionT (StateM (σ × List BallotQuestion)) (Except ClientError TransactionHash)) :
    BallotAttempt σ :=
  ⟨(attempt (s, [])).1, (attempt (s, [])).2.2, (attempt (s, [])).2.1⟩

/-- Submits a ballot to the parties. -/
def submit : BallotAttempt σ :=
  follow s (c.submit b sender (ask .dryRun parties.node) (ask .signature parties.wallet))

/-- Submits a ballot to the parties, for an election whose configuration may be known. -/
def submitFor (config : Option ElectionConfig) (now : Instant) : BallotAttempt σ :=
  follow s (c.submitFor config now b sender (ask .dryRun parties.node) (ask .signature parties.wallet))

/-! ### What is asked -/

/-- A ballot that cannot be written is not asked about. -/
lemma submit_of_unwritable {e : ClientError} (h : b.writable = .error e) :
    parties.submit c b sender s = ⟨some (.error e), [], s⟩ := by
  rw [submit, ElectionContract.submit, h]
  rfl

/-- A node that does not answer is all that was asked. -/
lemma submit_of_silence {s' : σ} (h : b.writable = .ok ())
    (hnode : parties.node (c.dryRun b sender) s = (none, s')) :
    parties.submit c b sender s = ⟨none, [.dryRun (c.dryRun b sender)], s'⟩ := by
  have hask : ask .dryRun parties.node (c.dryRun b sender) (s, []) =
      (none, s', [.dryRun (c.dryRun b sender)]) := by rw [ask, hnode]; rfl
  rw [submit, ElectionContract.submit, h]
  simp only [follow, bind, OptionT.bind, OptionT.mk, StateT.bind, hask]
  rfl

/-- A wallet is asked for what is made of the node's answer, if anything is. -/
lemma submit_of_dryRun {s' : σ} {answer : Except ClientError InvokeResult} (h : b.writable = .ok ())
    (hnode : parties.node (c.dryRun b sender) s = (some answer, s')) :
    parties.submit c b sender s =
      match c.afterDryRun b answer with
      | .error e => ⟨some (.error e), [.dryRun (c.dryRun b sender)], s'⟩
      | .ok p => ⟨(parties.wallet p s').1, [.dryRun (c.dryRun b sender), .signature p],
          (parties.wallet p s').2⟩ := by
  have hask : ask .dryRun parties.node (c.dryRun b sender) (s, []) =
      (some answer, s', [.dryRun (c.dryRun b sender)]) := by rw [ask, hnode]; rfl
  rw [submit, ElectionContract.submit, h]
  simp only [follow, bind, OptionT.bind, OptionT.mk, StateT.bind, hask]
  cases c.afterDryRun b answer with
  | error e => rfl
  | ok p => rfl

/-! ### Before anything is asked -/

lemma submitFor_of_admit_error {config : ElectionConfig} {now : Instant} {e : ClientError}
    (h : config.admit now b = .error e) :
    parties.submitFor c b sender s (some config) now = ⟨some (.error e), [], s⟩ := by
  rw [submitFor, ElectionContract.submitFor]
  simp only [h]
  rfl

lemma submitFor_of_admit {config : ElectionConfig} {now : Instant} (h : config.admit now b = .ok ()) :
    parties.submitFor c b sender s (some config) now = parties.submit c b sender s := by
  rw [submitFor, ElectionContract.submitFor]
  simp only [h]
  rfl

end BallotParties

/-! ### Writing a ballot -/

lemma Ballot.writable_of_lt {b : Ballot} (h : b.selections.length < UInt32.size) :
    b.writable = .ok () := if_pos h

lemma Ballot.writable_of_le {b : Ballot} (h : UInt32.size ≤ b.selections.length) :
    b.writable = .error .io := if_neg (not_lt.mpr h)

/-- What can be written is read back. -/
lemma Ballot.decodeAll_encode {b : Ballot} (h : b.selections.length < UInt32.size) :
    Ballot.codec.decodeAll (Ballot.codec.encode b) = .ok b :=
  (Binary.Codec.decodeAll_eq_ok_iff Ballot.isStrict_codec.toIsExact).mpr ⟨⟨h, fun _ _ => trivial⟩, rfl⟩

/-! ### Admission and energy -/

lemma ElectionConfig.admit_of_closed {config : ElectionConfig} {now : Instant} (b : Ballot)
    (hphase : config.phase now ≠ .voting) :
    config.admit now b = .error (.electionClosed (config.phase now)) := if_pos hphase

lemma ElectionConfig.admit_of_miscounted {config : ElectionConfig} {now : Instant} {b : Ballot}
    (hphase : config.phase now = .voting)
    (hlength : b.selections.length ≠ config.candidates.length) :
    config.admit now b =
      .error (.invalidBallot (.miscounted b.selections.length config.candidates.length)) := by
  unfold ElectionConfig.admit
  rw [if_neg (not_not.mpr hphase), if_pos hlength]

lemma ElectionConfig.admit_of_counted {config : ElectionConfig} {now : Instant} {b : Ballot}
    (hphase : config.phase now = .voting)
    (hlength : b.selections.length = config.candidates.length) : config.admit now b = .ok () := by
  unfold ElectionConfig.admit
  rw [if_neg (not_not.mpr hphase), if_neg (not_not.mpr hlength)]

lemma ElectionContract.receiveName_register (c : ElectionContract) :
    c.receiveName registerEntrypoint = c.name ++ ".registerVotes" := by
  rw [receiveName, String.append_assoc]
  rfl

lemma Energy.toNat_add (e : Energy) (more : UInt64) :
    (e.add more).units.toNat = min (e.units.toNat + more.toNat) (UInt64.size - 1) := by
  have hmin : min (e.units.toNat + more.toNat) (UInt64.size - 1) ≤ UInt64.size - 1 := min_le_right ..
  rw [Energy.add, Numeral.max64, UInt64.toNat_ofNat_of_lt' (hmin.trans_lt (by decide))]

/-! ### What is signed -/

/-- A ballot is submitted to a node and a wallet that answer as they like, or never. A ballot with more
selections than can be counted in four bytes is refused, and nobody is asked anything. For any other the
node is asked for one dry run, in the name of the sender, with a parameter that is read back as this
ballot. If no answer comes, or an error, or a failure, that is what becomes of the ballot, and the wallet
is not asked. If the dry run succeeds then the wallet is asked once, for the same call of the same contract
with the same parameter and amount and with one more than the energy that the dry run took as ceiling, as
far as that can be counted; and what the wallet says is what becomes of the ballot. For an election whose
configuration is known, nobody is asked anything unless it is in its voting phase and has as many
candidates as the ballot has selections, and it is the phase that is looked at first; if so then the ballot
is submitted like any other. -/
theorem ballots_are_signed_as_simulated {σ : Type} (parties : BallotParties σ) (c : ElectionContract)
    (b : Ballot) (sender : Account) (s : σ) :
    (UInt32.size ≤ b.selections.length →
      parties.submit c b sender s = ⟨some (.error .io), [], s⟩) ∧
    (b.selections.length < UInt32.size →
      ∃ q : InvokeRequest, q.contract = c.address ∧ q.receiveName = c.name ++ ".registerVotes" ∧
        Ballot.codec.decodeAll q.parameter = .ok b ∧ q.invoker = some sender ∧ q.amount = 0 ∧
        match parties.node q s with
        | (none, s') => parties.submit c b sender s = ⟨none, [.dryRun q], s'⟩
        | (some (.error e), s') => parties.submit c b sender s = ⟨some (.error e), [.dryRun q], s'⟩
        | (some (.ok (.failure _ reason)), s') =>
          parties.submit c b sender s =
            ⟨some (.error (.dryRunFailed q.receiveName reason)), [.dryRun q], s'⟩
        | (some (.ok (.success energy _)), s') =>
          ∃ p : UpdatePayload, p.contract = q.contract ∧ p.receiveName = q.receiveName ∧
            p.parameter = q.parameter ∧ p.amount = q.amount ∧
            p.maxEnergy.units.toNat = min (energy.units.toNat + 1) (2 ^ 64 - 1) ∧
            parties.submit c b sender s =
              ⟨(parties.wallet p s').1, [.dryRun q, .signature p], (parties.wallet p s').2⟩) ∧
    ∀ (config : ElectionConfig) (now : Instant),
      parties.submitFor c b sender s none now = parties.submit c b sender s ∧
      (config.phase now ≠ .voting →
        parties.submitFor c b sender s (some config) now =
          ⟨some (.error (.electionClosed (config.phase now))), [], s⟩) ∧
      (config.phase now = .voting → b.selections.length ≠ config.candidates.length →
        parties.submitFor c b sender s (some config) now =
          ⟨some (.error (.invalidBallot (.miscounted b.selections.length config.candidates.length))),
            [], s⟩) ∧
      (config.phase now = .voting → b.selections.length = config.candidates.length →
        parties.submitFor c b sender s (some config) now = parties.submit c b sender s) := by
  refine ⟨fun hlarge => parties.submit_of_unwritable c b sender s (Ballot.writable_of_le hlarge), ?_, ?_⟩
  · intro hsmall
    have hwritable := Ballot.writable_of_lt hsmall
    refine ⟨c.dryRun b sender, rfl, c.receiveName_register, Ballot.decodeAll_encode hsmall, rfl, rfl, ?_⟩
    rcases hnode : parties.node (c.dryRun b sender) s with ⟨answer, s'⟩
    cases answer with
    | none => exact parties.submit_of_silence c b sender s hwritable hnode
    | some answer =>
        have hsubmit := parties.submit_of_dryRun c b sender s hwritable hnode
        cases answer with
        | error e => exact hsubmit
        | ok r =>
            cases r with
            | failure energy reason => exact hsubmit
            | success energy value =>
                exact ⟨c.payload b energy, rfl, rfl, rfl, rfl, energy.toNat_add energyMargin, hsubmit⟩
  · intro config now
    refine ⟨rfl, fun hphase => ?_, fun hphase hlength => ?_, fun hphase hlength => ?_⟩
    · exact parties.submitFor_of_admit_error c b sender s (ElectionConfig.admit_of_closed b hphase)
    · exact parties.submitFor_of_admit_error c b sender s
        (ElectionConfig.admit_of_miscounted hphase hlength)
    · exact parties.submitFor_of_admit c b sender s (ElectionConfig.admit_of_counted hphase hlength)

/-- The dry run takes all the energy that can be counted, and the election is over before its ballot is. -/
theorem ballots_are_signed_as_simulated_of_full_energy :
    let c : ElectionContract := ⟨⟨1, 0⟩, "election"⟩
    let b : Ballot := ⟨[false, true]⟩
    let parties : BallotParties ℕ :=
      ⟨fun _ n => (some (.ok (.success ⟨UInt64.ofNat (2 ^ 64 - 1)⟩ none)), n + 1),
        fun _ n => (some (.error (.walletRejected "no")), n + 1)⟩
    ∃ (q : InvokeRequest) (p : UpdatePayload),
      parties.submit c b default 0 =
        ⟨some (.error (.walletRejected "no")), [.dryRun q, .signature p], 2⟩ ∧
      p.receiveName = q.receiveName ∧ p.parameter = q.parameter ∧
      Ballot.codec.decodeAll q.parameter = .ok b ∧ p.maxEnergy.units.toNat = 2 ^ 64 - 1 ∧
      (default : ElectionConfig).phase default ≠ .voting ∧
      parties.submitFor c b default 0 (some default) default =
        ⟨some (.error (.electionClosed ((default : ElectionConfig).phase default))), [], 0⟩ := by
  intro c b parties
  obtain ⟨-, hsmall, hfor⟩ := ballots_are_signed_as_simulated parties c b default 0
  obtain ⟨q, -, -, hread, -, -, p, -, hname, hparameter, -, henergy, hsubmit⟩ := hsmall (by decide)
  have hclosed : (default : ElectionConfig).phase default ≠ .voting := by decide
  exact ⟨q, p, hsubmit, hname, hparameter, hread, henergy, hclosed,
    (hfor default default).2.1 hclosed⟩

/-- A ballot whose selections cannot be counted in four bytes is neither simulated nor signed, although the dry
run would succeed. -/
theorem uncountable_ballot_is_not_simulated :
    let c : ElectionContract := ⟨⟨1, 0⟩, "election"⟩
    let b : Ballot := ⟨.replicate UInt32.size true⟩
    let parties : BallotParties ℕ :=
      ⟨fun _ n => (some (.ok (.success ⟨5⟩ none)), n + 1),
        fun _ n => (some (.error (.walletRejected "no")), n + 1)⟩
    parties.submit c b default 0 = ⟨some (.error .io), [], 0⟩ := by
  intro c b parties
  exact parties.submit_of_unwritable c b default 0 (Ballot.writable_of_le List.length_replicate.ge)

end ChainElection
