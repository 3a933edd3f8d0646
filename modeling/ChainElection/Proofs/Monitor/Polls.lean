import Mathlib.Data.ENat.Lattice
import Mathlib.Tactic
import ChainElection.Proofs.Monitor.Effort

/-!
Polls: how often a monitor asks for a verdict, and what comes of it.

* `Tracker.firstAnswer` says which poll is the first one that is not made in
  vain; `Tracker.Hears` compares the answers to a monitor's polls with those
  that are fixed.
* `Course.heard` and `Asks.verdict` are the two ways to be done with polling: an
  answer that says something, and the last poll that can be made.
* `Tracker.Verdict` is what a monitor makes of it. `Turns.verdict`: a turn that
  ends a monitor which has polled is of that kind.
* `exists_verdict`: a monitor that polls comes to that if it is let go on.
* `unlimited_polls_run_over`: without a budget, and told nothing, it polls as
  often as its word can count and breaks down.
-/

namespace ChainElection

/-- The submission of a monitor is stored with the given status. -/
def SubmissionStore.Holds (st : SubmissionStore) (m : Monitor) (status : SubmissionStatus) : Prop :=
  ∃ ss, st.contents m.account = .ok ss ∧ Submission.statusIn ss m.hash = some status

namespace Tracker

open Submission

variable {t t' t₀ u u' : Tracker} {m m' : Monitor} {event : MonitorEvent} {id : ℕ} {x : TrackerAction}
  {xs : List TrackerAction} {es : List MonitorEvent} {settings : TrackerSettings}
  {store st st' : SubmissionStore} {status next : SubmissionStatus} {w : ℕ → PollAnswer}
  {how : MonitorEnd}

/-! ### Answers -/

/-- The answers are the first ones of a sequence. -/
def Hears (w : ℕ → PollAnswer) (answers : List PollAnswer) : Prop :=
  ∀ i answer, answers[i]? = some answer → answer = w i

/-- Which poll is the first one that is answered with a record or an error, counted from one. -/
noncomputable def firstAnswer (w : ℕ → PollAnswer) : ℕ∞ :=
  sInf {k | ∃ i : ℕ, w i ≠ .ok none ∧ k = (i + 1 : ℕ)}

lemma lt_firstAnswer {k : ℕ} (hnull : ∀ i < k, w i = .ok none) : (k : ℕ∞) < firstAnswer w := by
  have hle : ((k + 1 : ℕ) : ℕ∞) ≤ firstAnswer w := by
    refine le_sInf ?_
    rintro _ ⟨i, hi, rfl⟩
    have hki : k ≤ i := not_lt.mp fun hlt => hi (hnull i hlt)
    exact_mod_cast Nat.succ_le_succ hki
  refine lt_of_lt_of_le ?_ hle
  exact_mod_cast Nat.lt_succ_self k

lemma firstAnswer_eq {k : ℕ} (hnull : ∀ i < k, w i = .ok none) (hk : w k ≠ .ok none) :
    firstAnswer w = (k + 1 : ℕ) := by
  refine le_antisymm (sInf_le ⟨k, hk, rfl⟩) ?_
  have hlt := lt_firstAnswer hnull
  rw [Nat.cast_succ]
  exact Order.add_one_le_of_lt hlt

lemma Hears.append {answers : List PollAnswer} {answers' : List PollAnswer}
    (h : Hears w (answers ++ answers')) : Hears w answers := by
  intro i answer hi
  refine h i answer ?_
  rw [List.getElem?_append_left (List.getElem?_eq_some_iff.mp hi).1, hi]

lemma Hears.null {k : ℕ} (h : Hears w (.replicate k (.ok none))) : ∀ i < k, w i = .ok none :=
  fun i hi => (h i _ (by simp [hi])).symm

lemma hears_replicate {k : ℕ} (hnull : ∀ i < k, w i = .ok none) : Hears w (.replicate k (.ok none)) := by
  intro i answer hi
  obtain ⟨hlt, rfl⟩ := List.getElem?_eq_some_iff.mp hi
  rw [List.length_replicate] at hlt
  rw [List.getElem_replicate, hnull i hlt]

/-- The answer that comes after polls that were made in vain. -/
lemma Hears.last {k : ℕ} {answer : PollAnswer} (h : Hears w (.replicate k (.ok none) ++ [answer])) :
    w k = answer := by
  refine (h k answer ?_).symm
  rw [List.getElem?_append_right (by simp)]
  simp

/-! ### Answers in the course of a monitor -/

lemma answers_naps (naps : List (Option ClientError)) :
    (naps.flatMap nap).filterMap MonitorEvent.answer? = .replicate naps.length (.ok none) := by
  induction naps with
  | nil => rfl
  | cons failure naps ih =>
      have hnap : (nap failure).filterMap MonitorEvent.answer? = [.ok none] := rfl
      rw [List.flatMap_cons, List.filterMap_append, ih, hnap, List.length_cons, List.replicate_succ,
        List.singleton_append]

/-- A monitor that goes through silence is told nothing each time. -/
lemma answersTo_silence (id n : ℕ) : answersTo id (silence id n) = .replicate n (.ok none) := by
  induction n with
  | zero => rfl
  | succ n ih =>
      rw [silence, List.replicate_succ, ← ih, answersTo, turnsOf_step, turnsOf_step]
      rfl

lemma Approach.answers {rounds waits writes : ℕ} (h : Approach es rounds waits writes) :
    es.filterMap MonitorEvent.answer? = [] := by
  cases h <;> rfl

/-- All polls but the last one were made in vain when a monitor waits for an answer. -/
lemma Course.of_polling {n : UInt32} (h : Course settings es m) (hphase : m.phase = .polling n) :
    ∃ k, m.effort.polls = k + 1 ∧ k + 1 ≤ settings.pollLimit ∧
      es.filterMap MonitorEvent.answer? = .replicate k (.ok none) := by
  cases h with
  | polling happroach hphase' hn heffort hlimit =>
      obtain rfl := MonitorPhase.polling.inj (hphase.symm.trans hphase')
      refine ⟨_, ?_, hn ▸ hlimit, ?_⟩
      · rw [heffort, hn]
      · rw [List.filterMap_append, happroach.answers, answers_naps, List.nil_append]
  | _ => simp_all

/-- All polls were made in vain when a monitor sleeps. -/
lemma Course.of_sleeping {n : UInt32} (h : Course settings es m) (hphase : m.phase = .sleeping n) :
    m.effort.polls = n.toNat ∧ n.toNat ≤ settings.pollLimit ∧
      es.filterMap MonitorEvent.answer? = .replicate n.toNat (.ok none) := by
  cases h with
  | sleeping happroach hphase' hn heffort hlimit =>
      obtain rfl := MonitorPhase.sleeping.inj (hphase.symm.trans hphase')
      refine ⟨by rw [heffort], hlimit, ?_⟩
      rw [List.filterMap_append, List.filterMap_append, happroach.answers, answers_naps, hn,
        List.replicate_succ', List.nil_append]
      rfl
  | _ => simp_all

lemma isRunning_of_expects (h : m.phase.expects = some status) : m.isRunning = true := by
  rw [Monitor.isRunning]
  split
  · rename_i hphase
    rw [hphase] at h
    cases h
  · rfl

/-- A monitor that polls has made a poll. -/
lemma Course.polls_pos (h : Course settings es m) (hexpects : m.phase.expects = some .approved) :
    0 < m.effort.polls := by
  cases h with
  | ready hphase _ => rw [hphase] at hexpects; cases hexpects
  | waiting hphase _ => rw [hphase] at hexpects; cases hexpects
  | polling _ _ hn heffort _ => rw [heffort, hn]; exact Nat.succ_pos _
  | sleeping _ _ hn heffort _ => rw [heffort, hn]; exact Nat.succ_pos _

/-- A monitor that has come to an answer that says something has polled just so often. -/
lemma Course.heard {n : UInt32} {answer : PollAnswer} (h : Course settings es m)
    (hphase : m.phase = .polling n)
    (hhears : Hears w ((es ++ [MonitorEvent.answered answer]).filterMap MonitorEvent.answer?))
    (hanswer : answer ≠ .ok none) :
    ∃ k : ℕ, firstAnswer w = (k + 1 : ℕ) ∧ k + 1 ≤ settings.pollLimit ∧ w k = answer ∧
      (m.effort.polls : ℕ∞) = min (settings.pollLimit : ℕ∞) (firstAnswer w) := by
  obtain ⟨k, hpolls, hlimit, hanswers⟩ := h.of_polling hphase
  rw [List.filterMap_append, hanswers] at hhears
  have hlast : w k = answer := hhears.last
  have hfirst := firstAnswer_eq hhears.append.null (hlast ▸ hanswer)
  refine ⟨k, hfirst, hlimit, hlast, ?_⟩
  rw [hfirst, hpolls, min_eq_right]
  exact_mod_cast hlimit

/-- A monitor never polls again once it has been told something, nor more often than it can. -/
lemma Course.polls_le (h : Course settings es m)
    (hhears : Hears w (es.filterMap MonitorEvent.answer?)) :
    (m.effort.polls : ℕ∞) ≤ min (settings.pollLimit : ℕ∞) (firstAnswer w) := by
  have hlimit : (m.effort.polls : ℕ∞) ≤ settings.pollLimit := by exact_mod_cast h.within.polls
  refine le_min hlimit ?_
  cases hphase : m.phase with
  | polling n =>
      obtain ⟨k, hpolls, -, hanswers⟩ := h.of_polling hphase
      rw [hanswers] at hhears
      rw [hpolls, Nat.cast_succ]
      exact Order.add_one_le_of_lt (lt_firstAnswer hhears.null)
  | sleeping n =>
      obtain ⟨hpolls, -, hanswers⟩ := h.of_sleeping hphase
      rw [hanswers] at hhears
      rw [hpolls]
      exact (lt_firstAnswer hhears.null).le
  | _ =>
      have hnone : m.effort.polls = 0 := by cases h <;> simp_all
      rw [hnone, Nat.cast_zero]
      exact zero_le

/-! ### What is stored while a monitor polls -/

/-- Monitors that have looked at their submission have a list to look at. -/
def AllReadable (t : Tracker) : Prop :=
  ∀ {id m status}, t.monitors.get? id = some m → m.phase.expects = some status →
    ∃ ss, t.store.contents m.account = .ok ss

lemma beginRound_readable (h : (t.beginRound m).phase.expects = some status) :
    ∃ ss, t.store.contents m.account = .ok ss := by
  cases hlive : t.scopes.isAborted m.signal with
  | true =>
      rw [beginRound_of_isAborted hlive] at h
      cases h
  | false =>
      have hbegins := beginRound_begins hlive
      generalize t.beginRound m = m' at h hbegins
      cases hbegins with
      | failed _ => cases h
      | missing hload _ => exact ⟨_, SubmissionStore.contents_of_load hload⟩
      | committed hload _ => exact ⟨_, SubmissionStore.contents_of_load hload⟩
      | approved hload _ => exact ⟨_, SubmissionStore.contents_of_load hload⟩
      | settled hload _ _ => exact ⟨_, SubmissionStore.contents_of_load hload⟩

lemma endRound_readable (h : (t.endRound m next).2.phase.expects = some status) :
    ∃ ss, (t.endRound m next).1.store.contents m.account = .ok ss := by
  rw [endRound] at h ⊢
  cases hpersist : t.persist m next with
  | error failure =>
      rw [hpersist] at h
      cases h
  | ok r =>
      rw [hpersist] at h
      have hreadable := beginRound_readable h
      rwa [(persist_cases hpersist).2.account] at hreadable

lemma Turns.readable (h : Turns t m event t' m')
    (hm : ∀ {status}, m.phase.expects = some status → ∃ ss, t.store.contents m.account = .ok ss)
    (hm' : m'.phase.expects = some status) : ∃ ss, t'.store.contents m'.account = .ok ss := by
  rw [h.same.account]
  cases h with
  | started _ => exact beginRound_readable hm'
  | nodeFailed _ _ => cases hm'
  | verifierFailed _ _ => cases hm'
  | stopped _ _ => cases hm'
  | finalized _ _ _ => exact endRound_readable hm'
  | judged _ _ _ => exact endRound_readable hm'
  | fellAsleep hphase _ => exact hm (by rw [hphase]; rfl)
  | awoke hphase _ _ => exact hm (by rw [hphase]; rfl)
  | gaveUp hphase _ _ => exact hm (by rw [hphase]; rfl)

lemma AllReadable.act (ht : t.AllReadable) (h : t.act x = some t') : t'.AllReadable := by
  intro id m status hm hexpects
  cases act_becomes h hm with
  | kept hm _ =>
      obtain ⟨ss, hss⟩ := ht hm hexpects
      exact ((act_precedes h).grows hss).imp fun _ hss' => hss'.1
  | started _ _ _ _ _ => cases hexpects
  | turned hn _ =>
      obtain ⟨t₁, m', hturn, rfl⟩ := turns_of_step hn h
      rw [get?_place_self, Option.some.injEq] at hm
      subst hm
      exact hturn.readable (ht hn) hexpects
  | killed _ _ => cases hexpects

lemma run_readable (h : (Tracker.empty settings store).run xs = some t) : t.AllReadable :=
  run_induction (P := AllReadable) (fun _ hact hu => hu.act hact) h fun hm => by cases hm

/-- A monitor that watches its submission has it at the status that its phase says. -/
lemma holds_of_expects (h : (Tracker.empty settings store).run xs = some t) (hm : t.Watches id m)
    (hexpects : m.phase.expects = some status) : t.store.Holds m status := by
  obtain ⟨ss, hss⟩ := run_readable h hm.found hexpects
  exact ⟨ss, hss, ((run_allInStep h (.empty settings store)).inStep hm).status hexpects hss⟩

/-! ### Verdicts -/

/-- What a monitor makes of the answers to its polls with its last turn, from one store to the next: what
the first record says is written, unless the store fails; an error is passed on; and if it is too late for
another poll, the submission stays approved. -/
inductive Verdict (settings : TrackerSettings) (w : ℕ → PollAnswer) (st st' : SubmissionStore)
    (m : Monitor) : MonitorEnd → Prop where
  | judged {k : ℕ} {r : SubmissionRecord} (hfirst : firstAnswer w = (k + 1 : ℕ))
      (hlimit : k + 1 ≤ settings.pollLimit) (hrecord : w k = .ok (some r))
      (hstatus : st'.Holds m (statusOfVerdict r.verified)) : Verdict settings w st st' m .settled
  | storeFailed {k : ℕ} {r : SubmissionRecord} {e : ClientError} (hfirst : firstAnswer w = (k + 1 : ℕ))
      (hlimit : k + 1 ≤ settings.pollLimit) (hrecord : w k = .ok (some r))
      (hfails : st.load m.account = .error e ∨ (∃ ss, st.save m.account ss = .error e) ∨
        st'.load m.account = .error e ∧ st'.Holds m (statusOfVerdict r.verified)) :
      Verdict settings w st st' m (.failed .store e)
  | failed {k : ℕ} {e : ClientError} (hfirst : firstAnswer w = (k + 1 : ℕ))
      (hlimit : k + 1 ≤ settings.pollLimit) (herror : w k = .error e)
      (hstatus : st'.Holds m .approved) : Verdict settings w st st' m (.failed .verifier e)
  | usedUp {budget : UInt32} (hbudget : settings.maxPolls = some budget)
      (hlate : (budget.toNat : ℕ∞) < firstAnswer w) (hstatus : st'.Holds m .approved) :
      Verdict settings w st st' m .outOfPolls
  | overrun (hunlimited : settings.maxPolls = none) (hlate : (Numeral.max32 : ℕ∞) < firstAnswer w)
      (hstatus : st'.Holds m .approved) : Verdict settings w st st' m .brokeDown

/-- A monitor that cannot poll any more has polled as often as it can. -/
lemma Asks.verdict {n : UInt32} (h : Asks u' m n m') (hended : m'.phase = .ended how)
    (hpolls : m.effort.polls = n.toNat) (hlimit : n.toNat ≤ u'.settings.pollLimit)
    (hnull : ∀ i < n.toNat, w i = .ok none) (hstatus : u'.store.Holds m .approved) :
    (m'.effort.polls : ℕ∞) = min (u'.settings.pollLimit : ℕ∞) (firstAnswer w) ∧
      Verdict u'.settings w st u'.store m' how := by
  have hlate : (n.toNat : ℕ∞) < firstAnswer w := lt_firstAnswer hnull
  cases h with
  | made _ _ => cases hended
  | usedUp hbudget hfull =>
      cases hended
      have heq : n.toNat = u'.settings.pollLimit := le_antisymm hlimit hfull
      refine ⟨?_, .usedUp hbudget ?_ hstatus⟩
      · rw [Monitor.finish, Monitor.effort_goTo, hpolls, ← heq, min_eq_left hlate.le]
      · rwa [heq, TrackerSettings.pollLimit, hbudget] at hlate
  | overrun hunlimited hfull =>
      cases hended
      have heq : n.toNat = u'.settings.pollLimit := le_antisymm hlimit hfull
      refine ⟨?_, .overrun hunlimited ?_ hstatus⟩
      · rw [Monitor.finish, Monitor.effort_goTo, hpolls, ← heq, min_eq_left hlate.le]
      · rwa [heq, TrackerSettings.pollLimit, hunlimited] at hlate

/-- A turn under a live signal that ends a monitor which has polled, or which may not poll at all, ends it
as the answers say. -/
theorem Turns.verdict (h : Turns u m event u' m') (hlive : u.scopes.isAborted m.signal = false)
    (hin : u.InStep m) (hholds : ∀ {status}, m.phase.expects = some status → u.store.Holds m status)
    (hcourse : Course u.settings es m)
    (hhears : Hears w ((es ++ [event]).filterMap MonitorEvent.answer?)) (hended : m'.phase = .ended how)
    (hpolled : m'.effort.polls = 0 → how = .outOfPolls) :
    (m'.effort.polls : ℕ∞) = min (u.settings.pollLimit : ℕ∞) (firstAnswer w) ∧
      Verdict u.settings w u.store u'.store m' how := by
  cases h with
  | stopped _ haborted => exact absurd haborted (by simp [hlive])
  | gaveUp _ haborted _ => exact absurd haborted (by simp [hlive])
  | fellAsleep _ _ => cases hended
  | started hphase =>
      have hnone : (nextRound m).effort.polls = 0 :=
        congrArg Effort.polls (hcourse.effort_of_ready hphase)
      have hbegins := beginRound_begins hlive
      generalize u.beginRound m = m' at hbegins hended hpolled ⊢
      cases hbegins with
      | failed _ =>
          cases hended
          cases hpolled hnone
      | missing _ _ =>
          cases hended
          cases hpolled hnone
      | settled _ _ _ =>
          cases hended
          cases hpolled hnone
      | committed _ _ => cases hended
      | approved hload hstatus =>
          exact (poll_asks u (nextRound m) 0).verdict hended hnone (Nat.zero_le _) nofun
            ⟨_, SubmissionStore.contents_of_load hload, hstatus⟩
  | nodeFailed hphase e =>
      cases hended
      cases hpolled (congrArg Effort.polls (hcourse.effort_of_awaiting hphase))
  | verifierFailed hphase e =>
      cases hended
      obtain ⟨k, hfirst, hlimit, herror, hcount⟩ := hcourse.heard hphase hhears nofun
      exact ⟨hcount, .failed hfirst hlimit herror (hholds (by rw [hphase]; rfl))⟩
  | finalized hphase _ outcome =>
      have hnone : m.effort.polls = 0 := congrArg Effort.polls (hcourse.effort_of_awaiting hphase)
      have hstatus : u.StatusIs m .committed := hin.status (by rw [hphase]; rfl)
      have hrounds := endRound_rounds hlive hstatus (canBecome_statusAfter outcome)
      generalize (u.endRound m (statusAfter outcome)).1 = u',
        (u.endRound m (statusAfter outcome)).2 = m' at hrounds hended hpolled ⊢
      cases hrounds with
      | refused _ =>
          cases hended
          cases hpolled hnone
      | unread _ _ =>
          cases hended
          cases hpolled hnone
      | settled _ _ =>
          cases hended
          cases hpolled hnone
      | approved hwrote hnext hasks =>
          obtain ⟨ss, hss, hstatus⟩ := hwrote.status
          rw [← hwrote.settings]
          exact hasks.verdict hended hnone (Nat.zero_le _) nofun ⟨ss, hss, hnext ▸ hstatus⟩
  | judged hphase _ r =>
      obtain ⟨k, hfirst, hlimit, hrecord, hcount⟩ := hcourse.heard hphase hhears nofun
      have hstatus : u.StatusIs m .approved := hin.status (by rw [hphase]; rfl)
      have hrounds := endRound_rounds hlive hstatus (canBecome_statusOfVerdict r.verified)
      generalize (u.endRound m (statusOfVerdict r.verified)).1 = u',
        (u.endRound m (statusOfVerdict r.verified)).2 = m' at hrounds hended hpolled ⊢
      cases hrounds with
      | refused hfails =>
          cases hended
          exact ⟨hcount, .storeFailed hfirst hlimit hrecord (hfails.imp_right .inl)⟩
      | unread hwrote hload =>
          cases hended
          exact ⟨hcount, .storeFailed hfirst hlimit hrecord (.inr (.inr ⟨hload, hwrote.status⟩))⟩
      | settled hwrote _ =>
          cases hended
          exact ⟨hcount, .judged hfirst hlimit hrecord hwrote.status⟩
      | approved _ hnext _ => exact absurd hnext (statusOfVerdict_ne_approved r.verified)
  | awoke hphase _ failure =>
      obtain ⟨hcount, hlimit, hanswers⟩ := hcourse.of_sleeping hphase
      rw [List.filterMap_append, hanswers] at hhears
      exact (poll_asks u m _).verdict hended hcount hlimit hhears.append.null
        (hholds (by rw [hphase]; rfl))

/-! ### Runs -/

/-- How a monitor has come to its end in a run: with its last turn, as the answers to its polls say, after
as many polls as it could make or as it took to get an answer. -/
structure Concludes (t₀ : Tracker) (w : ℕ → PollAnswer) (id : ℕ) (xs : List TrackerAction) (m : Monitor)
    (how : MonitorEnd) : Prop where
  polls : (m.effort.polls : ℕ∞) = min (t₀.settings.pollLimit : ℕ∞) (firstAnswer w)
  turn : ∃ us event vs u u' m₀, xs = us ++ .step id event :: vs ∧ t₀.run us = some u ∧
    u.monitors.get? id = some m₀ ∧ Course t₀.settings (turnsOf id us) m₀ ∧
    u.step id event = some u' ∧ u'.monitors.get? id = some m ∧ turnsOf id vs = [] ∧
    Verdict t₀.settings w u.store u'.store m how

/-- A monitor that has ended in a run after it has polled, or because it may not poll at all. -/
lemma concludes_of_run (h : (Tracker.empty settings store).run xs = some t)
    (hm : t.monitors.get? id = some m) (hlive : t.scopes.isAborted m.signal = false)
    (hkill : .kill id ∉ xs) (hhears : Hears w (answersTo id xs)) (hended : m.phase = .ended how)
    (hpolled : m.effort.polls = 0 → how = .outOfPolls) :
    Concludes (.empty settings store) w id xs m how := by
  have hall : (Tracker.empty settings store).AllInStep := .empty settings store
  cases history_of_run h hm with
  | going hcourse =>
      have hrunning := hcourse.isRunning
      rw [Monitor.isRunning, hended] at hrunning
      cases hrunning
  | killed _ hkilled => exact absurd hkilled hkill
  | @ended us vs event u u' m₀ _ hu hm₀ hcourse hturn hstep _ hlast =>
      have hlater : u.Reaches t := by
        rw [run_append, hu, Option.bind_some] at h
        exact ⟨_, h⟩
      have hlive₀ : u.scopes.isAborted m₀.signal = false :=
        ((sound_of_run hu).follows_of_reaches hlater).2.live (hturn.same.signal ▸ hlive)
      have hwatches : u.Watches id m₀ := ⟨hm₀, hturn.isRunning, hlive₀⟩
      have hsettings : u.settings = settings := run_settings hu
      rw [answersTo, turnsOf_append, turnsOf_step, hlast] at hhears
      have hverdict := hturn.verdict hlive₀ ((run_allInStep hu hall).inStep hwatches)
        (holds_of_expects hu hwatches) (hsettings.symm ▸ hcourse) hhears hended hpolled
      rw [hsettings] at hverdict
      exact ⟨hverdict.1, us, event, vs, u, _, m₀, rfl, hu, hm₀, hcourse, hstep,
        get?_place_self .., hlast, hverdict.2⟩

/-! ### Polling to the end -/

lemma Hears.snoc {answers : List PollAnswer} (h : Hears w answers) :
    Hears w (answers ++ [w answers.length]) := by
  intro i answer hi
  rcases Nat.lt_or_ge i answers.length with hlt | hge
  · rw [List.getElem?_append_left hlt] at hi
    exact h i answer hi
  · rw [List.getElem?_append_right hge] at hi
    obtain ⟨hlt, hanswer⟩ := List.getElem?_eq_some_iff.mp hi
    obtain rfl : i = answers.length := by
      rw [List.length_singleton] at hlt
      omega
    rw [← hanswer, List.getElem_singleton]

/-- A monitor that has taken other turns than the first one polls, if it still runs. -/
lemma Course.expects_approved (h : Course settings es m) (hne : es ≠ []) (hne' : es ≠ [.start]) :
    m.phase.expects = some .approved := by
  cases h with
  | ready _ _ => exact absurd rfl hne
  | waiting _ _ => exact absurd rfl hne'
  | polling _ hphase _ _ _ => rw [hphase]; rfl
  | sleeping _ hphase _ _ _ => rw [hphase]; rfl

/-- What a monitor is told next that polls, if the answers are fixed. -/
lemma exists_awaited (hexpects : m.phase.expects = some .approved) (hhears : Hears w (answersTo id xs)) :
    ∃ event, m.phase.Awaits event ∧ event ≠ .start ∧
      Hears w (answersTo id (xs ++ [.step id event])) := by
  have hanswers : ∀ event, answersTo id (xs ++ [.step id event]) =
      answersTo id xs ++ [event].filterMap MonitorEvent.answer? := by
    intro event
    rw [answersTo, turnsOf_append, turnsOf_step, List.filterMap_append]
    rfl
  cases hphase : m.phase with
  | ready => rw [hphase] at hexpects; cases hexpects
  | awaitingFinality => rw [hphase] at hexpects; cases hexpects
  | ended how => rw [hphase] at hexpects; cases hexpects
  | polling n =>
      refine ⟨.answered (w (answersTo id xs).length), trivial, nofun, ?_⟩
      rw [hanswers]
      exact hhears.snoc
  | sleeping n =>
      refine ⟨.awoken none, trivial, nofun, ?_⟩
      rw [hanswers]
      rwa [show [MonitorEvent.awoken none].filterMap MonitorEvent.answer? = [] from rfl, List.append_nil]

/-- A monitor that polls and is let go on either polls on, or has come to its end. -/
lemma exists_polls_on (h : (Tracker.empty settings store).run xs = some t) (hm : t.Watches id m)
    (hexpects : m.phase.expects = some .approved) (hhears : Hears w (answersTo id xs)) :
    ∃ event t' m', t.step id event = some t' ∧ t'.monitors.get? id = some m' ∧ m.Same m' ∧
      t'.scopes = t.scopes ∧ m.effort.polls ≤ m'.effort.polls ∧
      Hears w (answersTo id (xs ++ [.step id event])) ∧
      (m'.phase.expects = some .approved ∨ ∃ how, m'.phase = .ended how) := by
  have hall : (Tracker.empty settings store).AllInStep := .empty settings store
  obtain ⟨event, hawaits, hstart, hhears'⟩ := exists_awaited hexpects hhears
  obtain ⟨t', hstep⟩ := exists_step_of_awaits hm.found hawaits
  obtain ⟨t₁, m', hturn, rfl⟩ := turns_of_step hm.found hstep
  refine ⟨event, _, m', hstep, get?_place_self .., hturn.same,
    hturn.writes.scopes, hturn.counts.polls_le, hhears', ?_⟩
  cases hrunning : m'.isRunning with
  | false => exact .inr (Monitor.isRunning_eq_false_iff.mp hrunning)
  | true =>
      left
      have hsettings : t.settings = settings := run_settings h
      have hcourse := (history_of_run h hm.found).course hm.running
      have hcourse' := hturn.course hm.live ((run_allInStep h hall).inStep hm)
        (hsettings.symm ▸ hcourse) hrunning
      refine hcourse'.expects_approved (List.append_ne_nil_of_right_ne_nil _ (by simp)) fun heq => ?_
      -- the turn would be the first one
      rw [List.append_eq_singleton_iff] at heq
      rcases heq with ⟨-, hfirst⟩ | ⟨-, hnil⟩
      · exact hstart (List.singleton_inj.mp hfirst)
      · cases hnil

/-- A monitor that has polled comes to its end, whatever the answers are, if it is let go on. -/
theorem exists_verdict (h : (Tracker.empty settings store).run xs = some t) (hm : t.Watches id m)
    (hexpects : m.phase.expects = some .approved) (hkill : .kill id ∉ xs)
    (hhears : Hears w (answersTo id xs)) :
    ∃ ys t' m' how, (∀ y ∈ ys, ∃ event, y = .step id event) ∧ t.run ys = some t' ∧
      t'.monitors.get? id = some m' ∧ m'.phase = .ended how ∧ Hears w (answersTo id (xs ++ ys)) ∧
      Concludes (.empty settings store) w id (xs ++ ys) m' how := by
  have hall : (Tracker.empty settings store).AllInStep := .empty settings store
  -- there is no room for many more turns
  induction hn : 3 + 2 * settings.pollLimit - (turnsOf id xs).length using Nat.strong_induction_on
    generalizing xs t m with
  | _ n ih =>
      have hhistory := history_of_run h hm.found
      have hcourse := hhistory.course hm.running
      have hturns : (turnsOf id xs).length ≤ 2 + 2 * settings.pollLimit := by
        have hpolls : m.effort.polls ≤ settings.pollLimit := (hhistory.within hall).polls
        have hlength := hhistory.length_turns_le.1
        omega
      have hpolled : 0 < m.effort.polls := hcourse.polls_pos hexpects
      obtain ⟨event, t₁, m₁, hstep, hm₁, hsame, hscopes, hpolls, hhears₁, hgoes⟩ :=
        exists_polls_on h hm hexpects hhears
      have hrun : (Tracker.empty settings store).run (xs ++ [.step id event]) = some t₁ := by
        rw [run_append, h, Option.bind_some, Tracker.run, act, hstep, Option.bind_some, Tracker.run]
      have hkill₁ : .kill id ∉ xs ++ [.step id event] := by simp [hkill]
      have hlive₁ : t₁.scopes.isAborted m₁.signal = false := by rw [hscopes, hsame.signal, hm.live]
      rcases hgoes with hexpects₁ | ⟨how, hended⟩
      · have hless : 3 + 2 * settings.pollLimit - (turnsOf id (xs ++ [.step id event])).length < n := by
          rw [turnsOf_append, turnsOf_step, List.length_append, List.length_cons]
          omega
        obtain ⟨ys, t', m', how, hys, hrun', hm', hended, hhears', hconcludes⟩ :=
          ih _ hless hrun ⟨hm₁, isRunning_of_expects hexpects₁, hlive₁⟩ hexpects₁ hkill₁ hhears₁ rfl
        rw [List.append_assoc, List.singleton_append] at hhears' hconcludes
        refine ⟨.step id event :: ys, t', m', how, ?_, ?_, hm', hended, hhears', hconcludes⟩
        · rintro y (_ | ⟨_, hy⟩)
          · exact ⟨event, rfl⟩
          · exact hys y hy
        · rw [Tracker.run, act, hstep, Option.bind_some, hrun']
      · refine ⟨[.step id event], t₁, m₁, how, ?_, ?_, hm₁, hended, hhears₁, ?_⟩
        · rintro y hy
          exact ⟨event, List.mem_singleton.mp hy⟩
        · rw [Tracker.run, act, hstep, Option.bind_some, Tracker.run]
        · exact concludes_of_run hrun hm₁ hlive₁ hkill₁ hhears₁ hended fun hzero => by omega

/-! ### Polling without a budget -/

lemma firstAnswer_null : firstAnswer (fun _ => .ok none) = ⊤ := by
  rw [firstAnswer]
  simp

/-- A monitor without a budget that is told nothing polls again whenever it wakes up, until it has polled
as often as its word can count. -/
lemma polls_again (hunlimited : settings.maxPolls = none)
    (h : (Tracker.empty settings store).run xs = some t) (hm : t.Watches id m)
    {failure : Option ClientError} (hstep : t.step id (.awoken failure) = some t')
    (hroom : m.effort.polls < Numeral.max32) :
    ∃ m' n, t'.monitors.get? id = some m' ∧ m'.phase = .polling n ∧ n.toNat = m.effort.polls + 1 ∧
      m'.effort.polls = m.effort.polls + 1 := by
  have hsettings : t.settings = settings := run_settings h
  have hcourse := (history_of_run h hm.found).course hm.running
  have hlimit : t.settings.pollLimit = Numeral.max32 := by
    rw [TrackerSettings.pollLimit, hsettings, hunlimited, Option.elim_none]
  obtain ⟨t₁, m', hturn, rfl⟩ := turns_of_step hm.found hstep
  refine ⟨m', ?_⟩
  rw [get?_place_self]
  cases hturn with
  | stopped _ haborted => exact absurd haborted (by simp [hm.live])
  | gaveUp _ haborted _ => exact absurd haborted (by simp [hm.live])
  | @awoke n hphase _ _ =>
      obtain ⟨hpolls, -, -⟩ := hcourse.of_sleeping hphase
      have hasks := poll_asks t m n
      generalize t.poll m n = m' at hasks ⊢
      cases hasks with
      | usedUp _ hfull => omega
      | overrun _ hfull => omega
      | made _ hsucc => exact ⟨n + 1, rfl, rfl, by rw [hsucc, hpolls], rfl⟩

/-- Without a budget, a monitor that is never told anything does not poll for ever: it breaks down once it
has polled as often as its word can count. Until then it polls again whenever it wakes up. -/
theorem unlimited_polls_run_over (hunlimited : settings.maxPolls = none)
    (h : (Tracker.empty settings store).run xs = some t) (hm : t.Watches id m)
    (hexpects : m.phase.expects = some .approved) (hkill : .kill id ∉ xs)
    (hsilent : Hears (fun _ => .ok none) (answersTo id xs)) :
    (∀ failure t', t.step id (.awoken failure) = some t' → m.effort.polls < Numeral.max32 →
      ∃ m' n, t'.monitors.get? id = some m' ∧ m'.phase = .polling n ∧ n.toNat = m.effort.polls + 1 ∧
        m'.effort.polls = m.effort.polls + 1) ∧
    ∃ ys t' m', (∀ y ∈ ys, ∃ event, y = .step id event) ∧ t.run ys = some t' ∧
      t'.monitors.get? id = some m' ∧ Hears (fun _ => .ok none) (answersTo id (xs ++ ys)) ∧
      m'.phase = .ended .brokeDown ∧ m'.effort.polls = Numeral.max32 := by
  refine ⟨fun failure t' hstep hroom => polls_again hunlimited h hm hstep hroom, ?_⟩
  obtain ⟨ys, t', m', how, hys, hrun, hm', hended, hhears, hconcludes⟩ :=
    exists_verdict h hm hexpects hkill hsilent
  have hlimit : settings.pollLimit = Numeral.max32 := by
    rw [TrackerSettings.pollLimit, hunlimited, Option.elim_none]
  have hpolls : (m'.effort.polls : ℕ∞) = (Numeral.max32 : ℕ∞) := calc
    (m'.effort.polls : ℕ∞) = min (settings.pollLimit : ℕ∞) ⊤ := firstAnswer_null ▸ hconcludes.polls
    _ = (Numeral.max32 : ℕ∞) := by rw [min_top_right, hlimit]
  obtain ⟨us, event, vs, u, u', m₀, -, -, -, -, -, -, -, hverdict⟩ := hconcludes.turn
  have hhow : how = .brokeDown := by
    cases hverdict with
    | judged _ _ hrecord _ => cases hrecord
    | storeFailed _ _ hrecord _ => cases hrecord
    | failed _ _ herror _ => cases herror
    | usedUp hbudget _ _ => cases hunlimited.symm.trans hbudget
    | overrun _ _ _ => rfl
  exact ⟨ys, t', m', hys, hrun, hm', hhears, hhow ▸ hended, by exact_mod_cast hpolls⟩

/-- A ballot is finalized, and its monitor has made its first poll. -/
theorem unlimited_polls_run_over_of_first_poll :
    ∃ t m t' m' ys, (Tracker.empty ⟨10, none⟩ .ofLists).run
        [.acquire ⟨.replicate 1⟩, .add 0 ⟨.replicate 2⟩ .epoch, .step 0 .start,
          .step 0 (.finalized (.ok .success))] = some t ∧
      t.Watches 0 m ∧ m.effort.polls = 1 ∧ t.run ys = some t' ∧ t'.monitors.get? 0 = some m' ∧
      m'.phase = .ended .brokeDown ∧ m'.effort.polls = Numeral.max32 := by
  obtain ⟨t, m, hrun, hm, hexpects, hone⟩ :
      ∃ t m, (Tracker.empty ⟨10, none⟩ .ofLists).run
          [.acquire ⟨.replicate 1⟩, .add 0 ⟨.replicate 2⟩ .epoch, .step 0 .start,
            .step 0 (.finalized (.ok .success))] = some t ∧
        t.Watches 0 m ∧ m.phase.expects = some .approved ∧ m.effort.polls = 1 :=
    ⟨_, _, rfl, ⟨rfl, rfl, by decide⟩, rfl, rfl⟩
  obtain ⟨-, ys, t', m', -, hys, hm', -, hphase, hpolls⟩ :=
    unlimited_polls_run_over rfl hrun hm hexpects (by simp) (by rintro i answer ⟨⟩)
  exact ⟨t, m, t', m', ys, hrun, hm, hone, hys, hm', hphase, hpolls⟩

/-- Its guard is alive and there is no budget, but once it has been told nothing as often as its word can count,
the monitor does not run any more. -/
theorem silent_monitor_breaks_down :
    ∃ t m, (Tracker.empty ⟨10, none⟩ .ofLists).run
        ([.acquire ⟨.replicate 1⟩, .add 0 ⟨.replicate 2⟩ .epoch, .step 0 .start,
          .step 0 (.finalized (.ok .success))] ++ silence 0 Numeral.max32) = some t ∧
      answersTo 0 ([.acquire ⟨.replicate 1⟩, .add 0 ⟨.replicate 2⟩ .epoch, .step 0 .start,
          .step 0 (.finalized (.ok .success))] ++ silence 0 Numeral.max32) =
        .replicate Numeral.max32 (.ok none) ∧
      t.scopes.guards.get? 0 = some ⟨⟨.replicate 1⟩, 0⟩ ∧ t.monitors.get? 0 = some m ∧
      t.scopes.isAborted m.signal = false ∧ m.phase = .ended .brokeDown ∧
      m.effort.polls = Numeral.max32 := by
  obtain ⟨s, m₀, hs, hpolls, hguard, hcount⟩ :
      ∃ s m, (Tracker.empty ⟨10, none⟩ .ofLists).run
          [.acquire ⟨.replicate 1⟩, .add 0 ⟨.replicate 2⟩ .epoch, .step 0 .start,
            .step 0 (.finalized (.ok .success))] = some s ∧
        s.AwaitsPoll 0 m 1 ∧ s.scopes.guards.get? 0 = some ⟨⟨.replicate 1⟩, 0⟩ ∧ m.effort.polls = 1 :=
    ⟨_, _, rfl, ⟨rfl, ⟨1, rfl, rfl⟩, by decide, rfl⟩, by decide, rfl⟩
  obtain ⟨t, m, hrun, haside, hm, hsame, hphase, hmade⟩ :=
    hpolls.run_overrun (Nat.add_comm 1 Numeral.max32)
  refine ⟨t, m, ?_, ?_, haside.scopes ▸ hguard, hm, ?_, hphase, by omega⟩
  · rw [run_append, hs, Option.bind_some, hrun]
  · rw [answersTo, turnsOf_append, List.filterMap_append, ← answersTo, ← answersTo, answersTo_silence]
    rfl
  · rw [haside.scopes, hsame.signal, hpolls.live]

end Tracker

end ChainElection
