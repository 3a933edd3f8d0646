import Mathlib.Tactic
import ChainElection.Proofs.Session.Votes

/-!
What a session knows of a transaction once a wallet has sent it.

The submission is recorded only after the wallet has answered, and what the
store says then decides how the vote ends.

* `SubmissionStore.Refuses`: the store cannot be read, or it cannot be written
  and what is to be recorded is new. `Tracker.add_eq_error_iff`: adding a
  submission fails for no other reason.
* `signed_votes_are_returned_or_refused`: a vote whose wallet has answered with
  a hash returns the hash, or the error with which the store refuses it.
* `sent_ballot_is_forgotten`: then nothing of the hash is left.
-/

namespace ChainElection

open Submission

/-- The store does not take a submission that is to be recorded: the list cannot be loaded, or the hash
does not stand in it and the longer list cannot be saved. -/
inductive SubmissionStore.Refuses (st : SubmissionStore) (a : Account) (h : TransactionHash)
    (now : ClockTime) : ClientError → Prop where
  | unreadable {e : ClientError} (hload : st.load a = .error e) : Refuses st a h now e
  | unwritable {ss : List Submission} {e : ClientError} (hload : st.load a = .ok ss)
      (hnew : h ∉ hashes ss) (hsave : st.save a (ss ++ [fresh h now]) = .error e) :
      Refuses st a h now e

/-- A text that someone else has written is what the account's list is read from. -/
lemma SubmissionStore.contents_overwrite_ofTexts (a : Account) (s : String) :
    (ofTexts.overwrite a s).contents a = readKept (some s) := by
  rw [contents, overwrite]
  simp [ofTexts]

namespace Tracker

variable {t : Tracker} {a : Account} {h : TransactionHash} {now : ClockTime} {e : ClientError}

/-- Recording a submission fails only when the store refuses it. -/
lemma record_eq_error_iff : t.record a h now = .error e ↔ t.store.Refuses a h now e := by
  have hany : ∀ ss : List Submission, (ss.any fun s => s.hash == h) = true ↔ h ∈ hashes ss := by
    intro ss
    simp [hashes, List.any_eq_true]
  constructor
  · intro hr
    rw [record] at hr
    split at hr
    · rename_i hload
      cases hr
      exact .unreadable hload
    · rename_i ss hload
      split at hr
      · cases hr
      · rename_i hnew
        split at hr
        · rename_i hsave
          cases hr
          exact .unwritable hload (fun hmem => hnew ((hany ss).mpr hmem)) hsave
        · cases hr
  · intro hrefuses
    rw [record]
    cases hrefuses with
    | unreadable hload => rw [hload]
    | @unwritable ss _ hload hnew hsave =>
        rw [hload]
        simp only
        rw [if_neg fun hmem => hnew ((hany ss).mp hmem), hsave]

lemma add_eq_error_iff {guard : Guard} :
    t.add guard h now = .error e ↔ t.store.Refuses guard.account h now e := by
  rw [← record_eq_error_iff, add]
  cases hr : t.record guard.account h now with
  | error e' => simp only [Except.error.injEq]
  | ok t' => simp only [reduceCtorEq]

end Tracker

namespace Session

variable {s s' : Session} {id : ℕ} {h : TransactionHash} {now : ClockTime}

lemma Sound.withStore (hs : s.Sound) (st : SubmissionStore) : (s.withStore st).Sound :=
  Sound.withTracker hs (hs.tracker.of_eq rfl rfl rfl rfl rfl) fun _ hc => hc

/-- A vote reports with what the store refuses its submission. -/
lemma act_of_refuses {v : Vote} {c : Connection} {g : Guard} {e : ClientError}
    (hv : s.votes.get? id = some v) (hphase : v.phase = .signing c)
    (hg : s.tracker.scopes.guards.get? c.guard = some g)
    (hrefuses : s.tracker.store.Refuses g.account h now e) :
    s.act (.vote id (.signed (.ok h)) now) = some (s.endVote id v c (.error e)) := by
  have hadd := Tracker.add_eq_error_iff.mpr hrefuses
  simp only [act, stepVote, hv, hphase, afterSigning, hg, hadd]

/-- Whatever has become of the store by the time at which the wallet answers with a hash, the vote ends:
it returns the hash, which then stands in the list of the account that has signed, or it returns the error
with which the store refuses to take it, and leaves the store as it is. -/
theorem signed_votes_are_returned_or_refused {contract : ElectionContract}
    {settings : TrackerSettings} {store st : SubmissionStore} {xs : List SessionAction}
    (h₀ : (Session.new contract (.empty settings store)).run xs = some s)
    (hact : (s.withStore st).act (.vote id (.signed (.ok h)) now) = some s') :
    ∃ v c v', s.votes.get? id = some v ∧ v.phase = .signing c ∧ s'.votes.get? id = some v' ∧
      ((∃ started, v'.phase = .ended (.ok (h, started))) ∨ ∃ e, v'.phase = .ended (.error e)) ∧
      (∀ started, v'.phase = .ended (.ok (h, started)) →
        ∃ ss, s'.tracker.store.contents c.account = .ok ss ∧ h ∈ hashes ss) ∧
      (∀ e, v'.phase = .ended (.error e) ↔ st.Refuses c.account h now e) ∧
      ∀ e, v'.phase = .ended (.error e) → s'.tracker.store = st := by
  have hs := (sound_of_run h₀).withStore st
  obtain ⟨v, hv, hturns⟩ := stepVote_cases hact
  cases hturns with
  | @unguarded c _ hphase hg =>
      obtain ⟨σ, ⟨⟩⟩ := hs.guard_eq hv (by rw [Vote.connection?, hphase]) hg
  | @unrecorded c _ guard e hphase hg hadd =>
      obtain ⟨σ, ⟨⟩⟩ := hs.guard_eq hv (by rw [Vote.connection?, hphase]) hg
      have hrefuses : ∀ e', (s.withStore st).tracker.add ⟨c.account, σ⟩ h now = .error e' ↔
          st.Refuses c.account h now e' := fun _ => Tracker.add_eq_error_iff
      refine ⟨v, c, { v with phase := .ended (.error e) }, hv, hphase, ?_, .inr ⟨e, rfl⟩,
        fun _ hended => (by cases hended), fun e' => ?_, fun _ _ => ?_⟩
      · rw [endVote_eq, Table.get?_set_self]
      · rw [← hrefuses e', hadd]
        simp only [VotePhase.ended.injEq, Except.error.injEq]
      · rw [endVote_store]
        rfl
  | @recorded c _ guard started t hphase hg hadd =>
      obtain ⟨σ, ⟨⟩⟩ := hs.guard_eq hv (by rw [Vote.connection?, hphase]) hg
      have hrefuses : ∀ e', (s.withStore st).tracker.add ⟨c.account, σ⟩ h now = .error e' ↔
          st.Refuses c.account h now e' := fun _ => Tracker.add_eq_error_iff
      refine ⟨v, c, { v with phase := .ended (.ok (h, started)) }, hv, hphase, ?_,
        .inl ⟨started, rfl⟩, fun _ _ => ?_, fun e => ?_, fun _ hended => (by cases hended)⟩
      · rw [endVote_eq, Table.get?_set_self]
      · rw [endVote_store]
        exact (hs.tracker.adds hg hadd).stored
      · rw [← hrefuses e, hadd]
        simp only [VotePhase.ended.injEq, reduceCtorEq]

/-- A ballot is sent while saves fail. The vote reports what the store says. -/
theorem signed_votes_are_returned_or_refused_of_full_store :
    ∃ s s' v, (Session.new ⟨⟨0, 0⟩, "election"⟩ (.empty ⟨10, none⟩ .ofLists)).run
        [.connect 0 ⟨.replicate 1⟩, .cast ⟨[true]⟩, .vote 0 .start .epoch,
          .vote 0 (.dryRun (.ok (.success ⟨5⟩ none))) .epoch] = some s ∧
      (s.withStore (s.tracker.store.upset none (some .storage) none)).act
        (.vote 0 (.signed (.ok ⟨.replicate 3⟩)) .epoch) = some s' ∧
      s'.votes.get? 0 = some v ∧ v.phase = .ended (.error .storage) ∧
      (s.tracker.store.upset none (some .storage) none).Refuses ⟨.replicate 1⟩ ⟨.replicate 3⟩ .epoch
        .storage := by
  obtain ⟨v, c, v', hv, hphase, hv', -, -, hrefuses, -⟩ :=
    @signed_votes_are_returned_or_refused _ _ 0 ⟨.replicate 3⟩ .epoch ⟨⟨0, 0⟩, "election"⟩ ⟨10, none⟩
      .ofLists (SubmissionStore.ofLists.upset none (some .storage) none)
      [.connect 0 ⟨.replicate 1⟩, .cast ⟨[true]⟩, .vote 0 .start .epoch,
        .vote 0 (.dryRun (.ok (.success ⟨5⟩ none))) .epoch] rfl rfl
  cases hv
  cases hv'
  cases hphase
  exact ⟨_, _, _, rfl, rfl, rfl, rfl, (hrefuses .storage).mp rfl⟩

/-- A ballot that was sent can be forgotten: its hash is in the wallet's answer, but not in what the vote
returns, and nothing was written for the account, whose list someone else has spoilt in the meantime. -/
theorem sent_ballot_is_forgotten :
    ∃ s s' v, (Session.new ⟨⟨0, 0⟩, "election"⟩ (.empty ⟨10, none⟩ .ofTexts)).run
        [.connect 0 ⟨.replicate 1⟩, .cast ⟨[true]⟩, .vote 0 .start .epoch,
          .vote 0 (.dryRun (.ok (.success ⟨5⟩ none))) .epoch] = some s ∧
      (s.withStore (s.tracker.store.overwrite ⟨.replicate 1⟩ "oops")).act
        (.vote 0 (.signed (.ok ⟨.replicate 3⟩)) .epoch) = some s' ∧
      s'.votes.get? 0 = some v ∧ (∀ started, v.phase ≠ .ended (.ok (⟨.replicate 3⟩, started))) ∧
      v.phase = .ended (.error .json) ∧
      s'.tracker.store = s.tracker.store.overwrite ⟨.replicate 1⟩ "oops" ∧
      s'.tracker.store.contents ⟨.replicate 1⟩ = .error .json := by
  obtain ⟨s, hs⟩ : ∃ s, (Session.new ⟨⟨0, 0⟩, "election"⟩ (.empty ⟨10, none⟩ .ofTexts)).run
      [.connect 0 ⟨.replicate 1⟩, .cast ⟨[true]⟩, .vote 0 .start .epoch,
        .vote 0 (.dryRun (.ok (.success ⟨5⟩ none))) .epoch] = some s := ⟨_, rfl⟩
  obtain ⟨hv, hg, hstore⟩ : s.votes.get? 0 = some ⟨⟨[true]⟩, .signing ⟨0, ⟨.replicate 1⟩, 0⟩⟩ ∧
      s.tracker.scopes.guards.get? 0 = some ⟨⟨.replicate 1⟩, 0⟩ ∧
      s.tracker.store = .ofTexts := by
    cases hs
    exact ⟨rfl, rfl, rfl⟩
  have hspoilt : (s.tracker.store.overwrite ⟨.replicate 1⟩ "oops").contents ⟨.replicate 1⟩ =
      .error .json := by
    rw [hstore, SubmissionStore.contents_overwrite_ofTexts]
    rfl
  have hload : (s.tracker.store.overwrite ⟨.replicate 1⟩ "oops").load ⟨.replicate 1⟩ =
      .error .json := by
    rw [hstore] at hspoilt ⊢
    exact hspoilt
  have hact : (s.withStore (s.tracker.store.overwrite ⟨.replicate 1⟩ "oops")).act
      (.vote 0 (.signed (.ok ⟨.replicate 3⟩)) .epoch) = _ :=
    act_of_refuses hv rfl hg (.unreadable hload)
  refine ⟨s, _, _, hs, hact, by rw [endVote_eq, Table.get?_set_self], fun _ h => (by cases h), rfl,
    ?_, ?_⟩
  · rw [endVote_store]
    rfl
  · rw [endVote_store]
    exact hspoilt

end Session

end ChainElection
