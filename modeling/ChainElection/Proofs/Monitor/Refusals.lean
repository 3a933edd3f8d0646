import Mathlib.Tactic
import ChainElection.Proofs.Monitor.Failures

/-!
Steps that the store refuses.

A monitor touches the stored list twice in a turn at most: it looks its
submission up when a round begins, and it takes the submission on when the round
ends, whereupon the next round begins.

* `Monitor.Consults`: the turns in which a monitor touches the list.
* `Tracker.Meets` says where in such a turn the store refuses, and what the
  tracker is at that moment. `Meets.eq_or_reload`: it is what it was before the
  turn, unless the store takes a list and does not give it back.
* `turn_meets` and `Turns.meets`: the turn ends with the error of the store just
  where the store refuses, and the tracker stays what it is then.
* `Tracker.Halts` is what is left of the step: the monitor has ended with the
  error, its claim is gone, and nothing else has happened.
-/

namespace ChainElection

/-- The turns in which a monitor touches the stored list, with the status that the submission is to be
moved to; there is none when the first round begins. -/
inductive Monitor.Consults (m : Monitor) : MonitorEvent → Option SubmissionStatus → Prop where
  | looks (hphase : m.phase = .ready) : Consults m .start none
  | decides (hphase : m.phase = .awaitingFinality) (outcome : TransactionOutcome) :
      Consults m (.finalized (.ok outcome)) (some (Tracker.statusAfter outcome))
  | judges {polls : UInt32} (hphase : m.phase = .polling polls) (r : SubmissionRecord) :
      Consults m (.answered (.ok (some r))) (some (Tracker.statusOfVerdict r.verified))

namespace Tracker

open Submission

variable {t t' u : Tracker} {m m' : Monitor} {event : MonitorEvent} {id : ℕ} {e e' : ClientError}
  {next : SubmissionStatus} {next? : Option SubmissionStatus}

/-! ### Where the store refuses -/

/-- A submission is not taken on because of the store if the list cannot be loaded, or if the step is
legal and the list with it cannot be saved. -/
lemma persist_eq_store_iff : t.persist m next = .error (.store, e) ↔
    t.store.load m.account = .error e ∨ ∃ ss ss', t.store.load m.account = .ok ss ∧
      moveFirst m.hash next ss = some (.ok ss') ∧ t.store.save m.account ss' = .error e := by
  rw [persist]
  cases t.store.load m.account with
  | error e' => simp
  | ok ss =>
      cases hmove : moveFirst m.hash next ss with
      | none => simp [hmove]
      | some moved =>
          cases moved with
          | error e' => simp [hmove]
          | ok ss' =>
              cases hsave : t.store.save m.account ss' with
              | error e' => simp [hmove, hsave]
              | ok store => simp [hmove, hsave]

/-- Where in a turn that touches the list the store refuses, with the tracker of that moment: when the
submission is looked up, when it is taken on, or when it is looked up again after that. Each access to the
store is judged by itself, so the last of these is a refusal of the look-up alone: the list with the
submission taken on has been written, and stays written. -/
inductive Meets (t : Tracker) (m : Monitor) : Option SubmissionStatus → Tracker → ClientError → Prop where
  | looking {e : ClientError} (hload : t.store.load m.account = .error e) : Meets t m none t e
  | moving {next : SubmissionStatus} {e : ClientError}
      (hpersist : t.persist m next = .error (.store, e)) : Meets t m (some next) t e
  | lookingAgain {next : SubmissionStatus} {u : Tracker} {n : Monitor} {e : ClientError}
      (hpersist : t.persist m next = .ok (u, n)) (hload : u.store.load m.account = .error e) :
      Meets t m (some next) u e

/-- What has happened by then is all that a turn may do to the tracker. -/
lemma Meets.writes (h : t.Meets m next? u e) : Writes t m u := by
  cases h with
  | looking _ => exact .nothing
  | moving _ => exact .nothing
  | lookingAgain hpersist _ => exact (persist_cases hpersist).1

/-- A list that is not loaded is refused at once, whatever the monitor is about to do. -/
lemma meets_iff_of_load (hload : t.store.load m.account = .error e) :
    t.Meets m next? u e' ↔ u = t ∧ e' = e := by
  constructor
  · intro h
    cases h with
    | looking hload' =>
        rw [hload, Except.error.injEq] at hload'
        exact ⟨rfl, hload'.symm⟩
    | moving hpersist =>
        rw [persist_eq_store_iff, hload] at hpersist
        simp only [Except.error.injEq, reduceCtorEq, false_and, exists_false, or_false] at hpersist
        exact ⟨rfl, hpersist.symm⟩
    | lookingAgain hpersist _ =>
        rw [persist, hload] at hpersist
        cases hpersist
  · rintro ⟨rfl, rfl⟩
    cases next? with
    | none => exact .looking hload
    | some next => exact .moving (persist_eq_store_iff.mpr (.inl hload))

/-- The store refuses before anything has happened, unless it takes a list that it does not give back. -/
lemma Meets.eq_or_reload (h : t.Meets m next? u e) : u = t ∨ t.store.reloadFault = some e := by
  cases h with
  | looking _ => exact .inl rfl
  | moving _ => exact .inl rfl
  | lookingAgain hpersist hload =>
      obtain ⟨hw, -⟩ := persist_cases hpersist
      cases hw with
      | nothing => exact .inl rfl
      | step hfirst hmove hsave =>
          right
          have hkept := (moveFirst_changes hmove).contents_save hfirst hsave m.account
          obtain ⟨-, rfl⟩ := SubmissionStore.save_eq_ok_iff.mp hsave
          rw [SubmissionStore.load] at hload
          split at hload
          · rename_i e' hfault
            cases hload
            exact hfault
          · rw [if_pos rfl, hload] at hkept
            cases hkept

/-! ### Turns that the store ends -/

/-- A round that begins ends with the error of the store just if the list is not loaded. -/
lemma beginRound_failed_iff (hlive : t.scopes.isAborted m.signal = false) :
    (t.beginRound m).phase = .ended (.failed .store e) ↔ t.store.load m.account = .error e := by
  constructor
  · intro hphase
    exact (beginRound_result hlive hphase rfl).2
  · intro hload
    have hbegins := beginRound_begins hlive
    generalize t.beginRound m = n at hbegins ⊢
    cases hbegins with
    | failed hload' =>
        rw [hload, Except.error.injEq] at hload'
        rw [hload']
        rfl
    | missing hload' _ => cases hload.symm.trans hload'
    | committed hload' _ => cases hload.symm.trans hload'
    | approved hload' _ => cases hload.symm.trans hload'
    | settled hload' _ _ => cases hload.symm.trans hload'

/-- A round that ends does so with the error of the store just if the store refuses, and the tracker is
what it is at that moment. -/
lemma endRound_failed_iff (hlive : t.scopes.isAborted m.signal = false) :
    (∃ m', t.endRound m next = (u, m') ∧ m'.phase = .ended (.failed .store e)) ↔
      t.Meets m (some next) u e := by
  rw [endRound]
  cases hpersist : t.persist m next with
  | error failure =>
      obtain ⟨culprit, e'⟩ := failure
      constructor
      · rintro ⟨m', heq, hphase⟩
        obtain ⟨rfl, rfl⟩ := Prod.mk.inj heq
        cases hphase
        exact .moving hpersist
      · intro hmeets
        cases hmeets with
        | moving hpersist' =>
            cases hpersist.symm.trans hpersist'
            exact ⟨_, rfl, rfl⟩
        | lookingAgain hpersist' _ => cases hpersist.symm.trans hpersist'
  | ok moved =>
      obtain ⟨t₁, n⟩ := moved
      obtain ⟨hw, hsame⟩ := persist_cases hpersist
      have hlive' : t₁.scopes.isAborted n.signal = false := by rw [hw.scopes, hsame.signal, hlive]
      have hfails := beginRound_failed_iff (e := e) hlive'
      rw [hsame.account] at hfails
      constructor
      · rintro ⟨m', heq, hphase⟩
        obtain ⟨rfl, rfl⟩ := Prod.mk.inj heq
        exact .lookingAgain hpersist (hfails.mp hphase)
      · intro hmeets
        cases hmeets with
        | moving hpersist' => cases hpersist.symm.trans hpersist'
        | lookingAgain hpersist' hload =>
            cases hpersist.symm.trans hpersist'
            exact ⟨_, rfl, hfails.mpr hload⟩

/-- Where the store refuses, the turn ends with its error, and the tracker is what it is then. -/
lemma turn_meets (hlive : t.scopes.isAborted m.signal = false) (hconsults : m.Consults event next?)
    (hmeets : t.Meets m next? u e) :
    ∃ m', t.turn m event = some (u, m') ∧ m'.phase = .ended (.failed .store e) := by
  cases hconsults with
  | looks hphase =>
      cases hmeets with
      | looking hload => exact ⟨_, by simp only [turn, hphase], (beginRound_failed_iff hlive).mpr hload⟩
  | decides hphase outcome =>
      obtain ⟨m', heq, hended⟩ := (endRound_failed_iff hlive).mpr hmeets
      refine ⟨m', ?_, hended⟩
      simp only [turn, hphase, afterFinality, hlive, Bool.false_eq_true, if_false, heq]
  | judges hphase r =>
      obtain ⟨m', heq, hended⟩ := (endRound_failed_iff hlive).mpr hmeets
      refine ⟨m', ?_, hended⟩
      simp only [turn, hphase, afterPoll, hlive, Bool.false_eq_true, if_false, heq]

/-- A turn ends with an error of the store only if it touches the list and the store refuses. -/
lemma Turns.meets (h : Turns t m event t' m') (hphase : m'.phase = .ended (.failed .store e)) :
    t.scopes.isAborted m.signal = false ∧ ∃ next?, m.Consults event next? ∧ t.Meets m next? t' e := by
  cases h with
  | started hready =>
      cases haborted : t.scopes.isAborted m.signal with
      | true =>
          rw [beginRound] at hphase
          simp only [haborted, if_true] at hphase
          cases hphase
      | false => exact ⟨rfl, none, .looks hready, .looking ((beginRound_failed_iff haborted).mp hphase)⟩
  | nodeFailed _ _ => cases hphase
  | verifierFailed _ _ => cases hphase
  | stopped _ _ => cases hphase
  | finalized hwaits hlive outcome =>
      exact ⟨hlive, _, .decides hwaits outcome, (endRound_failed_iff hlive).mp ⟨_, rfl, hphase⟩⟩
  | judged hpolls hlive r =>
      exact ⟨hlive, _, .judges hpolls r, (endRound_failed_iff hlive).mp ⟨_, rfl, hphase⟩⟩
  | fellAsleep _ _ => cases hphase
  | awoke _ _ _ => exact absurd rfl (poll_result hphase)
  | @gaveUp polls _ _ failure =>
      rw [Monitor.abandonPoll] at hphase
      split at hphase
      · cases failure <;> cases hphase
      · exact absurd rfl (poll_result hphase)

/-! ### What is left of the step -/

/-- What is left of a step that the store ends, if it was refused at the second tracker: the monitor has
ended with the error, its claim is gone, and nothing else has happened. -/
structure Halts (t : Tracker) (id : ℕ) (m : Monitor) (e : ClientError) (u t' : Tracker) : Prop where
  ended : ∃ m', t'.monitors.get? id = some m' ∧ m.Same m' ∧ m'.phase = .ended (.failed .store e)
  others : ∀ i, i ≠ id → t'.monitors.get? i = t.monitors.get? i
  claims : ∀ k c, t'.claims.get? k = some c ↔ t.claims.get? k = some c ∧ c.id ≠ m.claim
  store : t'.store = u.store
  updates : t'.updates = u.updates
  scopes : t'.scopes = t.scopes

/-- The claim with the number of a monitor that is there is the one on its submission. -/
lemma Sound.key_of_claim (ht : t.Sound) (hm : t.monitors.get? id = some m)
    {k : Account × TransactionHash} {c : Claim} (hc : t.claims.get? k = some c)
    (hid : c.id = m.claim) : m.key = k := by
  obtain ⟨j, n, hj, -, rfl, rfl⟩ := ht.owner hc
  obtain rfl := ht.claim_inj hj hm hid
  rw [hm, Option.some.injEq] at hj
  rw [hj]

lemma Sound.halts (ht : t.Sound) (hm : t.monitors.get? id = some m) (hw : Writes t m u)
    (hsame : m.Same m') (hphase : m'.phase = .ended (.failed .store e)) :
    t.Halts id m e u (u.place id m') where
  ended := ⟨m', by rw [get?_place_monitors, if_pos rfl], hsame, hphase⟩
  others := fun i hi => by rw [get?_place_monitors, if_neg (Ne.symm hi), hw.monitors]
  claims := by
    intro k c
    have hstopped : ¬ m'.isRunning = true := by
      rw [Bool.not_eq_true, Monitor.isRunning_eq_false_iff]
      exact ⟨_, hphase⟩
    rw [get?_place_claims, hw.claims, hsame.key, hsame.claim, or_iff_right hstopped]
    refine and_congr_right fun hc => ⟨fun hne hid => ?_, fun hne _ => hne⟩
    exact hne (ht.key_of_claim hm hc hid) hid
  store := rfl
  updates := rfl
  scopes := hw.scopes

/-- A step that touches the list ends with the error of the store just if the store refuses. -/
theorem Sound.step_halts_iff (ht : t.Sound) (hm : t.monitors.get? id = some m) :
    (∃ m', t.step id event = some t' ∧ t'.monitors.get? id = some m' ∧
        m'.phase = .ended (.failed .store e)) ↔
      t.scopes.isAborted m.signal = false ∧ t.step id event = some t' ∧ ∃ next? u,
        m.Consults event next? ∧ t.Meets m next? u e ∧ t.Halts id m e u t' := by
  constructor
  · rintro ⟨m', hstep, hm', hphase⟩
    obtain ⟨u, n, hturn, rfl⟩ := turns_of_step hm hstep
    obtain rfl : n = m' := by
      rw [get?_place_monitors, if_pos rfl] at hm'
      exact Option.some.inj hm'
    obtain ⟨hlive, next?, hconsults, hmeets⟩ := hturn.meets hphase
    exact ⟨hlive, hstep, next?, u, hconsults, hmeets, ht.halts hm hturn.writes hturn.same hphase⟩
  · rintro ⟨-, hstep, next?, u, -, -, hhalts⟩
    obtain ⟨m', hm', -, hphase⟩ := hhalts.ended
    exact ⟨m', hstep, hm', hphase⟩

/-- Where the store refuses, the step is taken, and ends with its error. -/
theorem Sound.step_of_meets (ht : t.Sound) (hm : t.monitors.get? id = some m)
    (hlive : t.scopes.isAborted m.signal = false) (hconsults : m.Consults event next?)
    (hmeets : t.Meets m next? u e) : ∃ t', t.step id event = some t' ∧ t.Halts id m e u t' := by
  obtain ⟨m', hturn, hphase⟩ := turn_meets hlive hconsults hmeets
  refine ⟨u.place id m', ?_, ht.halts hm hmeets.writes (turn_cases hturn).same hphase⟩
  rw [Tracker.step, hm]
  simp only [hturn, Option.map_some]

end Tracker

end ChainElection
