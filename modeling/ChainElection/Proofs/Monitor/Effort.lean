import Mathlib.Tactic
import ChainElection.Proofs.Monitor.Course

/-!
The effort of monitors: it is bounded, whatever the node and the verification
service say.

* `Effort.Within` compares an effort with a bound; `Turns.within` bounds that of
  a monitor after any turn, and `History.within` after any run.
* `Turns.counts`: what a monitor counts is what it does.
* `History.length_turns_le`: it takes at most two turns more than two for each
  poll, and at most three more than two for each poll that is made in vain.
* `Tracker.Skips` is what is left for a monitor whose submission is not
  committed any more when it is started.
* `Tracker.Execution` is an endless run. `Execution.ends`: a monitor comes to
  its end in it if it is always let go on again.
* `monitors_make_bounded_effort` puts all of this together.
-/

namespace ChainElection

/-- The effort is at most another one. -/
structure Effort.Within (e bound : Effort) : Prop where
  rounds : e.rounds ≤ bound.rounds
  waits : e.waits ≤ bound.waits
  polls : e.polls ≤ bound.polls
  writes : e.writes ≤ bound.writes

lemma Effort.Within.mono {e bound bound' : Effort} (h : e.Within bound) (h' : bound.Within bound') :
    e.Within bound' :=
  ⟨h.rounds.trans h'.rounds, h.waits.trans h'.waits, h.polls.trans h'.polls, h.writes.trans h'.writes⟩

/-- Does the event tell a monitor that nothing is known of its submission yet? -/
def MonitorEvent.isVain : MonitorEvent → Bool
  | .answered (.ok none) => true
  | _ => false

/-- A monitor in this phase waits for the event. -/
def MonitorPhase.Awaits : MonitorPhase → MonitorEvent → Prop
  | .ready, .start | .awaitingFinality, .finalized _ | .polling _, .answered _ | .sleeping _, .awoken _ =>
    True
  | _, _ => False

namespace Tracker

open Submission

variable {t t' t₀ u : Tracker} {m m' : Monitor} {event : MonitorEvent} {id : ℕ} {x : TrackerAction}
  {xs ys : List TrackerAction} {es : List MonitorEvent} {settings : TrackerSettings}
  {store : SubmissionStore} {status next : SubmissionStatus}

/-! ### Counting -/

lemma Asks.within {n : UInt32} (h : Asks t m n m') (hpolls : m.effort.polls = n.toNat) {bound : Effort}
    (hbound : m.effort.Within bound) (hlimit : bound.polls = t.settings.pollLimit) :
    m'.effort.Within bound := by
  cases h with
  | usedUp _ _ => exact hbound
  | overrun _ _ => exact hbound
  | made hroom _ =>
      have hcounted : m.effort.polls + 1 ≤ bound.polls := by omega
      exact ⟨hbound.rounds, hbound.waits, hcounted, hbound.writes⟩

/-- The effort of a running monitor. -/
lemma Course.within (h : Course settings es m) : m.effort.Within ⟨2, 1, settings.pollLimit, 1⟩ := by
  cases h with
  | ready _ heffort => rw [heffort]; constructor <;> simp
  | waiting _ heffort => rw [heffort]; constructor <;> simp
  | polling happroach _ _ heffort hlimit =>
      rw [heffort]
      cases happroach <;> constructor <;> simp [hlimit]
  | sleeping happroach _ _ heffort hlimit =>
      rw [heffort]
      cases happroach <;> constructor <;> simp [hlimit]

lemma Course.effort_of_awaiting (h : Course settings es m) (hphase : m.phase = .awaitingFinality) :
    m.effort = ⟨1, 1, 0, 0⟩ := by
  cases h with
  | waiting _ heffort => exact heffort
  | _ => simp_all

lemma Course.effort_of_ready (h : Course settings es m) (hphase : m.phase = .ready) :
    m.effort = ⟨0, 0, 0, 0⟩ := by
  cases h with
  | ready _ heffort => exact heffort
  | _ => simp_all

/-- The effort after the first turn. -/
lemma beginRound_within (heffort : m.effort = ⟨0, 0, 0, 0⟩) :
    (t.beginRound m).effort.Within ⟨1, 1, t.settings.pollLimit, 0⟩ := by
  have hnext : (nextRound m).effort = ⟨1, 0, 0, 0⟩ := by rw [nextRound, heffort]
  have hbound : (nextRound m).effort.Within ⟨1, 1, t.settings.pollLimit, 0⟩ := by
    rw [hnext]
    constructor <;> simp
  cases hlive : t.scopes.isAborted m.signal with
  | true =>
      rw [beginRound_of_isAborted hlive]
      exact hbound
  | false =>
      have hbegins := beginRound_begins hlive
      have hwait := effort_of_awaiting (t := t) (m := m)
      rw [heffort] at hwait
      generalize t.beginRound m = m' at hbegins hwait ⊢
      cases hbegins with
      | failed _ => exact hbound
      | missing _ _ => exact hbound
      | settled _ _ _ => exact hbound
      | committed _ _ =>
          rw [hwait rfl]
          constructor <;> simp
      | approved _ _ => exact (poll_asks t (nextRound m) 0).within (by rw [hnext]; rfl) hbound rfl

/-- The effort at the end of a round. -/
lemma Rounds.within (h : Rounds t m next t' m') {bound : Effort} (hbound : m.effort.Within bound)
    (hlimit : bound.polls = t.settings.pollLimit) (hpolls : next = .approved → m.effort.polls = 0) :
    m'.effort.Within ⟨bound.rounds + 1, bound.waits, bound.polls, bound.writes + 1⟩ := by
  have hsaved : (nextRound (wrote m)).effort.Within
      ⟨bound.rounds + 1, bound.waits, bound.polls, bound.writes + 1⟩ :=
    ⟨Nat.succ_le_succ hbound.rounds, hbound.waits, hbound.polls, Nat.succ_le_succ hbound.writes⟩
  cases h with
  | refused _ =>
      exact ⟨Nat.le_succ_of_le hbound.rounds, hbound.waits, hbound.polls, Nat.le_succ_of_le hbound.writes⟩
  | unread _ _ => exact hsaved
  | settled _ _ => exact hsaved
  | approved hwrote hnext hasks =>
      have hlimit' : bound.polls = t'.settings.pollLimit := by rw [hwrote.settings, hlimit]
      exact hasks.within (hpolls hnext) hsaved hlimit'

/-- The effort after a turn. -/
theorem Turns.within (h : Turns t m event t' m') (hcourse : Course t.settings es m)
    (hin : t.scopes.isAborted m.signal = false → t.InStep m) :
    m'.effort.Within ⟨3, 1, t.settings.pollLimit, 2⟩ := by
  have hwithin := hcourse.within
  have hunchanged : m.effort.Within ⟨3, 1, t.settings.pollLimit, 2⟩ := by
    refine hwithin.mono ?_
    constructor <;> simp
  cases h with
  | nodeFailed _ _ => exact hunchanged
  | verifierFailed _ _ => exact hunchanged
  | stopped _ _ => exact hunchanged
  | fellAsleep _ _ => exact hunchanged
  | started hphase =>
      cases hcourse with
      | ready _ heffort =>
          refine (beginRound_within heffort).mono ?_
          constructor <;> simp
      | _ => simp_all
  | finalized hphase hlive outcome =>
      cases hcourse with
      | waiting _ heffort =>
          have hstatus : t.StatusIs m .committed := (hin hlive).status (by rw [hphase]; rfl)
          have hrounds := endRound_rounds hlive hstatus (canBecome_statusAfter outcome)
          exact hrounds.within hwithin rfl fun _ => by rw [heffort]
      | _ => simp_all
  | judged hphase hlive r =>
      have hstatus : t.StatusIs m .approved := (hin hlive).status (by rw [hphase]; rfl)
      have hrounds := endRound_rounds hlive hstatus (canBecome_statusOfVerdict r.verified)
      exact hrounds.within hwithin rfl fun hnext => absurd hnext (statusOfVerdict_ne_approved r.verified)
  | awoke hphase _ _ =>
      cases hcourse with
      | sleeping _ hphase' _ heffort _ =>
          obtain rfl := MonitorPhase.sleeping.inj (hphase.symm.trans hphase')
          exact (poll_asks t m _).within (by rw [heffort]) hunchanged rfl
      | _ => simp_all
  | gaveUp hphase _ failure =>
      cases hcourse with
      | sleeping _ hphase' _ heffort _ =>
          obtain rfl := MonitorPhase.sleeping.inj (hphase.symm.trans hphase')
          have hpoll := (poll_asks t m _).within (by rw [heffort]) hunchanged rfl
          rw [Monitor.abandonPoll]
          split
          · exact hpoll
          · exact hpoll
      | _ => simp_all

/-- A monitor counts the writes, the waits and the polls that it makes in a turn, and takes no poll back. -/
structure Counts (t : Tracker) (m : Monitor) (t' : Tracker) (m' : Monitor) : Prop where
  writes : t'.store = t.store ∧ t'.updates = t.updates ∨ m'.effort.writes = m.effort.writes + 1
  waits : m'.phase = .awaitingFinality → m'.effort.waits = m.effort.waits + 1
  polls : ∀ {n}, m'.phase = .polling n → m'.effort.polls = m.effort.polls + 1
  polls_le : m.effort.polls ≤ m'.effort.polls

lemma counts_of_ended {how : MonitorEnd} (hphase : m'.phase = .ended how)
    (hpolls : m.effort.polls ≤ m'.effort.polls) : Counts t m t m' := by
  refine ⟨.inl ⟨rfl, rfl⟩, fun h => ?_, fun h => ?_, hpolls⟩ <;> rw [hphase] at h <;> cases h

lemma Asks.counts {n : UInt32} (h : Asks t m n m') : Counts t m t m' := by
  cases h with
  | usedUp _ _ => exact counts_of_ended rfl le_rfl
  | overrun _ _ => exact counts_of_ended rfl le_rfl
  | made _ _ => exact ⟨.inl ⟨rfl, rfl⟩, nofun, fun _ => rfl, Nat.le_succ _⟩

lemma beginRound_counts (t : Tracker) (m : Monitor) :
    Counts t m t (t.beginRound m) ∧ (t.beginRound m).effort.writes = m.effort.writes := by
  cases hlive : t.scopes.isAborted m.signal with
  | true =>
      rw [beginRound_of_isAborted hlive]
      exact ⟨counts_of_ended rfl le_rfl, rfl⟩
  | false =>
      have hbegins := beginRound_begins hlive
      have hwait := effort_of_awaiting (t := t) (m := m)
      generalize t.beginRound m = m' at hbegins hwait ⊢
      cases hbegins with
      | failed _ => exact ⟨counts_of_ended rfl le_rfl, rfl⟩
      | missing _ _ => exact ⟨counts_of_ended rfl le_rfl, rfl⟩
      | settled _ _ _ => exact ⟨counts_of_ended rfl le_rfl, rfl⟩
      | committed _ _ =>
          have heffort := hwait rfl
          refine ⟨⟨.inl ⟨rfl, rfl⟩, fun _ => ?_, nofun, ?_⟩, ?_⟩ <;> rw [heffort]
      | approved _ _ =>
          have hasks := poll_asks t (nextRound m) 0
          generalize t.poll (nextRound m) 0 = m' at hasks ⊢
          have hcounts := hasks.counts
          refine ⟨⟨.inl ⟨rfl, rfl⟩, hcounts.waits, hcounts.polls, hcounts.polls_le⟩, ?_⟩
          cases hasks <;> rfl

lemma endRound_counts (t : Tracker) (m : Monitor) (next : SubmissionStatus) :
    Counts t m (t.endRound m next).1 (t.endRound m next).2 := by
  rw [endRound, persist]
  split
  · exact counts_of_ended rfl le_rfl
  · rename_i u m₁ hpersist
    have hbegun := beginRound_counts u m₁
    split at hpersist
    · cases hpersist
    · split at hpersist
      · cases hpersist
        exact hbegun.1
      · cases hpersist
      · split at hpersist
        · cases hpersist
        · cases hpersist
          exact ⟨.inr hbegun.2, hbegun.1.waits, hbegun.1.polls, hbegun.1.polls_le⟩

lemma Turns.counts (h : Turns t m event t' m') : Counts t m t' m' := by
  cases h with
  | started _ => exact (beginRound_counts t m).1
  | nodeFailed _ _ => exact counts_of_ended rfl le_rfl
  | verifierFailed _ _ => exact counts_of_ended rfl le_rfl
  | stopped _ _ => exact counts_of_ended rfl le_rfl
  | finalized _ _ _ => exact endRound_counts t m _
  | judged _ _ _ => exact endRound_counts t m _
  | fellAsleep _ _ => exact ⟨.inl ⟨rfl, rfl⟩, nofun, nofun, le_rfl⟩
  | awoke _ _ _ => exact (poll_asks t m _).counts
  | gaveUp hphase _ failure =>
      obtain ⟨hretires, how, hended, -⟩ := abandonPoll_poll (t := t) hphase failure
      refine counts_of_ended hended ?_
      rcases hretires.polls with hsame | ⟨hmore, -⟩ <;> omega

/-! ### Counting turns -/

/-- How many polls of a monitor were made in vain. -/
def vainPolls (id : ℕ) (xs : List TrackerAction) : ℕ := (turnsOf id xs).countP MonitorEvent.isVain

lemma length_naps (naps : List (Option ClientError)) : (naps.flatMap nap).length = 2 * naps.length := by
  induction naps with
  | nil => rfl
  | cons failure naps ih =>
      have hnap : (nap failure).length = 2 := rfl
      rw [List.flatMap_cons, List.length_append, ih, hnap, List.length_cons]
      omega

lemma countP_naps (naps : List (Option ClientError)) :
    (naps.flatMap nap).countP MonitorEvent.isVain = naps.length := by
  induction naps with
  | nil => rfl
  | cons failure naps ih =>
      have hnap : (nap failure).countP MonitorEvent.isVain = 1 := rfl
      rw [List.flatMap_cons, List.countP_append, ih, hnap, List.length_cons]
      omega

lemma Approach.length_le {rounds waits writes : ℕ} (h : Approach es rounds waits writes) :
    es.length ≤ 2 := by
  cases h <;> simp

/-- The turns of a running monitor, by its polls and by those that were made in vain. -/
lemma Course.length_le (h : Course settings es m) :
    es.length ≤ 1 + 2 * m.effort.polls ∧ es.length ≤ 2 + 2 * es.countP MonitorEvent.isVain := by
  cases h with
  | ready _ _ => simp
  | waiting _ _ => simp only [List.length_singleton]; omega
  | polling happroach _ hn heffort _ =>
      have happroach' := happroach.length_le
      have hpolls := congrArg Effort.polls heffort
      rw [List.length_append, List.countP_append, length_naps, countP_naps]
      dsimp only at hpolls
      omega
  | sleeping happroach _ hn heffort _ =>
      have happroach' := happroach.length_le
      have hpolls := congrArg Effort.polls heffort
      have hvain : [MonitorEvent.answered (.ok none)].countP MonitorEvent.isVain = 1 := rfl
      rw [List.length_append, List.length_append, List.countP_append, List.countP_append,
        length_naps, countP_naps, hvain, List.length_singleton]
      dsimp only at hpolls
      omega

/-- The turns of a monitor in a run, by its polls and by those that were made in vain. -/
lemma History.length_turns_le (h : History t₀ id xs m) :
    (turnsOf id xs).length ≤ 2 + 2 * m.effort.polls ∧ (turnsOf id xs).length ≤ 3 + 2 * vainPolls id xs := by
  rw [vainPolls]
  cases h with
  | going hcourse =>
      have hle := hcourse.length_le
      omega
  | killed hcourse _ =>
      have hle := hcourse.length_le
      rw [Monitor.finish, Monitor.effort_goTo]
      omega
  | ended _ _ hcourse hturn _ _ hlast =>
      have hle := hcourse.length_le
      have hpolls := hturn.counts.polls_le
      rw [turnsOf_append, turnsOf_step, hlast, List.length_append, List.countP_append,
        List.length_singleton]
      omega

/-- The effort of a monitor after a run. -/
lemma History.within (h₀ : t₀.AllInStep) (h : History t₀ id xs m) :
    m.effort.Within ⟨3, 1, t₀.settings.pollLimit, 2⟩ := by
  have hmore : Effort.Within ⟨2, 1, t₀.settings.pollLimit, 1⟩ ⟨3, 1, t₀.settings.pollLimit, 2⟩ := by
    constructor <;> simp
  cases h with
  | going hcourse => exact hcourse.within.mono hmore
  | killed hcourse _ => exact hcourse.within.mono hmore
  | ended hu hm hcourse hturn _ _ _ =>
      have hsettings := run_settings hu
      have hin := fun hlive => (run_allInStep hu h₀).inStep ⟨hm, hturn.isRunning, hlive⟩
      have hwithin := hturn.within (hsettings.symm ▸ hcourse) hin
      rwa [hsettings] at hwithin

/-! ### What is left out -/

/-- What becomes of a monitor in one event: it is left alone, takes a turn or is killed. -/
lemma Sound.after_act (ht : t.Sound) (h : t.act x = some t') (hm : t.monitors.get? id = some m) :
    (t'.monitors.get? id = some m ∧ ∀ event, x ≠ .step id event) ∨
    (∃ event t₁ m', Turns t m event t₁ m' ∧ t' = t₁.place id m') ∨
    t' = t.place id (m.finish .killed) := by
  by_cases hstep : ∃ event, x = .step id event
  · obtain ⟨event, rfl⟩ := hstep
    obtain ⟨t₁, m', hturn, rfl⟩ := turns_of_step hm h
    exact .inr (.inl ⟨event, t₁, m', hturn, rfl⟩)
  · have hother : ∀ event, x ≠ .step id event := fun event he => hstep ⟨event, he⟩
    by_cases hkill : x = .kill id
    · subst hkill
      exact .inr (.inr (running_of_kill hm h).2)
    · exact .inl ⟨by rw [act_kept h (ht.monitor_lt hm) hother hkill, hm], hother⟩

/-- A monitor that has ended stays what it is. -/
lemma Sound.ended_of_run (ht : t.Sound) (h : t.run xs = some t') (hm : t.monitors.get? id = some m)
    {how : MonitorEnd} (hphase : m.phase = .ended how) : t'.monitors.get? id = some m :=
  (run_induction (P := fun u => u.Sound ∧ u.monitors.get? id = some m)
    (fun _ hact hu => ⟨hu.1.act hact, hu.1.ended_kept hact hu.2 hphase⟩) h ⟨ht, hm⟩).2

/-- What can become of a monitor whose submission has a status other than the first one when the
monitor begins: it never waits for finality, and makes no poll if there is nothing left to learn. -/
inductive Skips (t : Tracker) (status : SubmissionStatus) : Monitor → Prop where
  | ready {m : Monitor} (hphase : m.phase = .ready) (heffort : m.effort = ⟨0, 0, 0, 0⟩)
      (hstatus : t.scopes.isAborted m.signal = false → t.StatusIs m status) : Skips t status m
  | polls {m : Monitor} {n : UInt32} (hstatus : status = .approved)
      (hphase : m.phase = .polling n ∨ m.phase = .sleeping n) (hwaits : m.effort.waits = 0) :
      Skips t status m
  | ended {m : Monitor} {how : MonitorEnd} (hphase : m.phase = .ended how)
      (hwaits : m.effort.waits = 0) (hpolls : status.isFinal = true → m.effort.polls = 0) :
      Skips t status m

lemma Skips.effort (h : Skips t status m) :
    m.effort.waits = 0 ∧ (status.isFinal = true → m.effort.polls = 0) := by
  cases h with
  | ready _ heffort _ => simp [heffort]
  | polls hstatus _ hwaits => exact ⟨hwaits, fun hfinal => by subst hstatus; cases hfinal⟩
  | ended _ hwaits hpolls => exact ⟨hwaits, hpolls⟩

lemma Asks.skips {n : UInt32} (h : Asks t m n m') (hwaits : m.effort.waits = 0) :
    Skips t .approved m' := by
  cases h with
  | usedUp _ _ => exact .ended rfl hwaits nofun
  | overrun _ _ => exact .ended rfl hwaits nofun
  | made _ _ => exact .polls rfl (.inl rfl) hwaits

/-- The first turn of such a monitor. -/
lemma beginRound_skips (hne : status ≠ .committed) (heffort : m.effort = ⟨0, 0, 0, 0⟩)
    (hstatus : t.scopes.isAborted m.signal = false → t.StatusIs m status) :
    Skips t status (t.beginRound m) := by
  cases hlive : t.scopes.isAborted m.signal with
  | true =>
      rw [beginRound_of_isAborted hlive]
      exact .ended rfl (congrArg Effort.waits heffort) fun _ => congrArg Effort.polls heffort
  | false =>
      have hbegins := beginRound_begins hlive
      have hend : ∀ {how}, Skips t status ((nextRound m).finish how) := fun {how} =>
        .ended rfl (congrArg Effort.waits heffort) fun _ => congrArg Effort.polls heffort
      generalize t.beginRound m = m' at hbegins ⊢
      cases hbegins with
      | failed _ => exact hend
      | missing _ _ => exact hend
      | settled _ _ _ => exact hend
      | committed hload hcommitted =>
          have hnow := hstatus hlive (SubmissionStore.contents_of_load hload)
          exact absurd (Option.some.inj (hnow.symm.trans hcommitted)) hne
      | approved hload happroved =>
          have hnow := hstatus hlive (SubmissionStore.contents_of_load hload)
          obtain rfl : status = .approved := Option.some.inj (hnow.symm.trans happroved)
          exact (poll_asks t (nextRound m) 0).skips (congrArg Effort.waits heffort)

lemma Turns.skips (h : Turns t m event t' m') (hne : status ≠ .committed) (hm : Skips t status m)
    (hin : t.scopes.isAborted m.signal = false → t.InStep m) : Skips t' status m' := by
  cases hm with
  | ended hphase _ _ =>
      have hrunning := h.isRunning
      rw [Monitor.isRunning, hphase] at hrunning
      cases hrunning
  | ready hphase heffort hstatus =>
      cases h with
      | started _ => exact beginRound_skips hne heffort hstatus
      | stopped hwaiting _ =>
          rw [Monitor.isWaiting, hphase] at hwaiting
          cases hwaiting
      | _ => simp_all
  | polls hstatus hphase hwaits =>
      subst hstatus
      have hend : ∀ {u : Tracker} {n : Monitor} {how}, n.phase = .ended how → n.effort.waits = 0 →
          Skips u .approved n := fun hended hnone =>
        .ended hended hnone fun hfinal => absurd hfinal Bool.false_ne_true
      cases h with
      | started _ => simp_all
      | nodeFailed _ _ => exact hend rfl hwaits
      | verifierFailed _ _ => exact hend rfl hwaits
      | stopped _ _ => exact hend rfl hwaits
      | finalized _ _ _ => simp_all
      | fellAsleep _ _ => exact .polls rfl (.inr rfl) hwaits
      | awoke _ _ _ => exact (poll_asks t m _).skips hwaits
      | gaveUp hsleeps _ failure =>
          obtain ⟨hretires, how, hended, -⟩ := abandonPoll_poll (t := t) hsleeps failure
          exact hend hended (hretires.waits.trans hwaits)
      | judged hpolls hlive r =>
          have happroved : t.StatusIs m .approved := (hin hlive).status (by rw [hpolls]; rfl)
          have hrounds := endRound_rounds hlive happroved (canBecome_statusOfVerdict r.verified)
          obtain ⟨⟨how, hended⟩, hsame⟩ := hrounds.ended (statusOfVerdict_ne_approved r.verified)
          exact hend hended (hsame.trans hwaits)

/-- An event leaves such a monitor what it is. -/
lemma AllInStep.act_skips (ht : t.AllInStep) (h : t.act x = some t') (hne : status ≠ .committed)
    (hm : t.monitors.get? id = some m) (hskips : Skips t status m) :
    ∃ m', t'.monitors.get? id = some m' ∧ Skips t' status m' := by
  rcases ht.sound.after_act h hm with ⟨hm', hother⟩ | ⟨event, t₁, m', hturn, rfl⟩ | rfl
  · refine ⟨m, hm', ?_⟩
    cases hskips with
    | polls hstatus hphase hwaits => exact .polls hstatus hphase hwaits
    | ended hphase hwaits hpolls => exact .ended hphase hwaits hpolls
    | ready hphase heffort hstatus =>
        refine .ready hphase heffort fun hlive ss hss => ?_
        have hlive' := (ht.sound.act_follows h).live hlive
        have hrunning : m.isRunning = true := by rw [Monitor.isRunning, hphase]
        exact ht.statusIs_of_kept h ⟨hm, hrunning, hlive'⟩ hother (hstatus hlive') hss
  · refine ⟨m', get?_place_self .., ?_⟩
    have hin := fun hlive => ht.inStep ⟨hm, hturn.isRunning, hlive⟩
    cases hturn.skips hne hskips hin with
    | ready hphase heffort hstatus => exact .ready hphase heffort hstatus
    | polls hstatus hphase hwaits => exact .polls hstatus hphase hwaits
    | ended hphase hwaits hpolls => exact .ended hphase hwaits hpolls
  · have heffort := hskips.effort
    exact ⟨m.finish .killed, get?_place_self .., .ended rfl heffort.1 heffort.2⟩

lemma AllInStep.run_skips (ht : t.AllInStep) (h : t.run xs = some t') (hne : status ≠ .committed)
    (hm : t.monitors.get? id = some m) (hskips : Skips t status m) :
    ∃ m', t'.monitors.get? id = some m' ∧ Skips t' status m' := by
  refine (run_induction (P := fun u => u.AllInStep ∧ ∃ n, u.monitors.get? id = some n ∧ Skips u status n)
    (fun _ hact hu => ?_) h ⟨ht, m, hm, hskips⟩).2
  obtain ⟨hall, n, hn, hn'⟩ := hu
  exact ⟨hall.act hact, hall.act_skips hact hne hn hn'⟩

/-- A monitor that finds nothing to do ends with its first turn and has asked nobody. -/
lemma beginRound_of_done {ss : List Submission} (heffort : m.effort = ⟨0, 0, 0, 0⟩)
    (hss : t.store.contents m.account = .ok ss)
    (hdone : ∀ {status}, statusIn ss m.hash = some status → status.isFinal = true) :
    ∃ how, (t.beginRound m).phase = .ended how ∧ (t.beginRound m).effort = ⟨1, 0, 0, 0⟩ := by
  have hnext : (nextRound m).effort = ⟨1, 0, 0, 0⟩ := by rw [nextRound, heffort]
  cases hlive : t.scopes.isAborted m.signal with
  | true =>
      rw [beginRound_of_isAborted hlive]
      exact ⟨_, rfl, hnext⟩
  | false =>
      have hbegins := beginRound_begins hlive
      generalize t.beginRound m = m' at hbegins ⊢
      cases hbegins with
      | failed _ => exact ⟨_, rfl, hnext⟩
      | missing _ _ => exact ⟨_, rfl, hnext⟩
      | settled _ _ _ => exact ⟨_, rfl, hnext⟩
      | committed hload hstatus =>
          rw [SubmissionStore.contents_of_load hload, Except.ok.injEq] at hss
          cases hdone (hss ▸ hstatus)
      | approved hload hstatus =>
          rw [SubmissionStore.contents_of_load hload, Except.ok.injEq] at hss
          cases hdone (hss ▸ hstatus)

/-! ### Going on -/

/-- A monitor takes a turn with whatever it waits for. -/
lemma exists_step_of_awaits (hm : t.monitors.get? id = some m) (hawaits : m.phase.Awaits event) :
    ∃ t', t.step id event = some t' := by
  have hturn : ∃ r, t.turn m event = some r := by
    cases hphase : m.phase with
    | ended how =>
        rw [hphase] at hawaits
        cases event <;> cases hawaits
    | _ =>
        rw [hphase] at hawaits
        cases event <;> first | exact False.elim hawaits | simp [turn, hphase]
  obtain ⟨⟨t₁, m'⟩, hturn⟩ := hturn
  exact ⟨t₁.place id m', by rw [step, hm]; simp only [hturn, Option.map_some]⟩

/-- The trackers of an endless run, and its events. -/
structure Execution (t₀ : Tracker) (ts : ℕ → Tracker) (xs : ℕ → TrackerAction) : Prop where
  start : ts 0 = t₀
  next : ∀ n, (ts n).act (xs n) = some (ts (n + 1))

/-- One event, after which nothing changes any more. -/
lemma Execution.of_act {y : TrackerAction} (h : t.act x = some u) (hidle : u.act y = some u) :
    Execution t (fun n => if n = 0 then t else u) (fun n => if n = 0 then x else y) := by
  refine ⟨rfl, fun n => ?_⟩
  cases n with
  | zero => exact h
  | succ n => exact hidle

/-- The first events of an endless run. -/
def firsts (xs : ℕ → TrackerAction) (n : ℕ) : List TrackerAction := (List.range n).map xs

lemma firsts_succ (xs : ℕ → TrackerAction) (n : ℕ) : firsts xs (n + 1) = firsts xs n ++ [xs n] := by
  rw [firsts, List.range_succ, List.map_append, List.map_singleton, firsts]

lemma Execution.run {ts : ℕ → Tracker} {xs : ℕ → TrackerAction} (h : Execution t₀ ts xs) (n : ℕ) :
    t₀.run (firsts xs n) = some (ts n) := by
  induction n with
  | zero => rw [h.start, firsts, List.range_zero, List.map_nil, Tracker.run]
  | succ n ih =>
      rw [firsts_succ, run_append, ih, Option.bind_some, Tracker.run, h.next, Option.bind_some,
        Tracker.run]

/-- The turns of a monitor become no fewer. -/
lemma monotone_turns (id : ℕ) (xs : ℕ → TrackerAction) :
    Monotone fun n => (turnsOf id (firsts xs n)).length := by
  refine monotone_nat_of_le_succ fun n => ?_
  rw [firsts_succ, turnsOf_append, List.length_append]
  exact Nat.le_add_right _ _

/-- A monitor that is let go on again and again takes any number of turns, unless it ends. -/
lemma exists_many_turns {xs : ℕ → TrackerAction}
    (hheeded : ∀ n, ∃ k event, n ≤ k ∧ xs k = .step id event) (c : ℕ) :
    ∃ n, c ≤ (turnsOf id (firsts xs n)).length := by
  induction c with
  | zero => exact ⟨0, Nat.zero_le _⟩
  | succ c ih =>
      obtain ⟨n, hn⟩ := ih
      obtain ⟨k, event, hk, hstep⟩ := hheeded n
      have hmono : (turnsOf id (firsts xs n)).length ≤ (turnsOf id (firsts xs k)).length :=
        monotone_turns id xs hk
      refine ⟨k + 1, ?_⟩
      rw [firsts_succ, hstep, turnsOf_append, turnsOf_step, List.length_append]
      exact Nat.succ_le_succ (hn.trans hmono)

/-- A monitor comes to its end in an endless run if it is always let go on again. -/
lemma Execution.ends {ts : ℕ → Tracker} {ys : ℕ → TrackerAction}
    (h₀ : (Tracker.empty settings store).run xs = some t) (h : Execution t ts ys)
    (hm : t.monitors.get? id = some m)
    (hheeded : ∀ n m', (ts n).monitors.get? id = some m' → m'.isRunning = true →
      ∃ k event, n ≤ k ∧ ys k = .step id event) :
    ∃ n m' how, (ts n).monitors.get? id = some m' ∧ m'.phase = .ended how := by
  have hall := AllInStep.empty settings store
  have hmonitor : ∀ n, ∃ m', (ts n).monitors.get? id = some m' := fun n =>
    ((sound_of_run h₀).exists_same_of_reaches ⟨_, h.run n⟩ hm).imp fun _ h => h.1
  by_contra hnone
  have hagain : ∀ n, ∃ k event, n ≤ k ∧ ys k = .step id event := by
    intro n
    obtain ⟨m', hm'⟩ := hmonitor n
    refine hheeded n m' hm' ?_
    by_contra hended
    rw [Bool.not_eq_true, Monitor.isRunning_eq_false_iff] at hended
    obtain ⟨how, hphase⟩ := hended
    exact hnone ⟨n, m', how, hm', hphase⟩
  -- there is no room for so many turns
  obtain ⟨n, hn⟩ := exists_many_turns hagain (3 + 2 * settings.pollLimit)
  obtain ⟨m', hm'⟩ := hmonitor n
  have hrun : (Tracker.empty settings store).run (xs ++ firsts ys n) = some (ts n) := by
    rw [run_append, h₀, Option.bind_some, h.run]
  have hhistory := history_of_run hrun hm'
  have hturns := hhistory.length_turns_le.1
  have hpolls : m'.effort.polls ≤ settings.pollLimit := (hhistory.within hall).polls
  rw [turnsOf_append, List.length_append] at hturns
  omega

/-- Whatever a monitor is told, it goes round its loop at most three times, waits for finality at most
once, writes at most twice and polls at most as often as its budget says, and these counts are those of
what it does. It never waits for finality if its submission is not committed any more when it is started;
if there is nothing left to learn, it ends with its first turn, has asked nobody, and stays what it is. A
monitor takes at most two turns more than two for each poll, and at most three more than two for each
poll that is made in vain; it takes one with whatever comes of what it waits for. So it comes to its end
if it is always let go on again: even if nothing is ever known of its submission, its count of polls has
an end. -/
theorem monitors_make_bounded_effort (h : (Tracker.empty settings store).run xs = some t) :
    (∀ i m, t.monitors.get? i = some m →
      m.effort.rounds ≤ 3 ∧ m.effort.waits ≤ 1 ∧ m.effort.writes ≤ 2 ∧
      (∀ budget, settings.maxPolls = some budget → m.effort.polls ≤ budget.toNat) ∧
      (turnsOf i xs).length ≤ 2 + 2 * m.effort.polls ∧
      (turnsOf i xs).length ≤ 3 + 2 * vainPolls i xs) ∧
    (∀ i m event t', t.monitors.get? i = some m → t.step i event = some t' →
      ∃ m', t'.monitors.get? i = some m' ∧ Counts t m t' m') ∧
    (∀ i m ss status ys t', t.monitors.get? i = some m → m.phase = .ready →
      t.store.contents m.account = .ok ss → statusIn ss m.hash = some status → status ≠ .committed →
      t.run ys = some t' → ∃ m', t'.monitors.get? i = some m' ∧ m'.effort.waits = 0 ∧
        (status.isFinal = true → m'.effort.polls = 0)) ∧
    (∀ i m ss, t.monitors.get? i = some m → m.phase = .ready → t.store.contents m.account = .ok ss →
      (∀ status, statusIn ss m.hash = some status → status.isFinal = true) →
      ∃ t' m' how, t.step i .start = some t' ∧ m'.phase = .ended how ∧ m'.effort = ⟨1, 0, 0, 0⟩ ∧
        ∀ ys t'', t'.run ys = some t'' → t''.monitors.get? i = some m') ∧
    (∀ i m event, t.monitors.get? i = some m → m.phase.Awaits event → ∃ t', t.step i event = some t') ∧
    ∀ ts ys, Execution t ts ys → ∀ i m, t.monitors.get? i = some m →
      (∀ n m', (ts n).monitors.get? i = some m' → m'.isRunning = true →
        ∃ k event, n ≤ k ∧ ys k = .step i event) →
      ∃ n m' how, (ts n).monitors.get? i = some m' ∧ m'.phase = .ended how := by
  have hall : (Tracker.empty settings store).AllInStep := .empty settings store
  have ht : t.AllInStep := run_allInStep h hall
  have hready : ∀ {i m}, t.monitors.get? i = some m → m.phase = .ready → m.effort = ⟨0, 0, 0, 0⟩ :=
    fun hm hphase =>
      ((history_of_run h hm).course (by rw [Monitor.isRunning, hphase])).effort_of_ready hphase
  refine ⟨fun i m hm => ?_, fun i m event t' hm hstep => ?_, ?_, ?_,
    fun i m event hm hawaits => exists_step_of_awaits hm hawaits,
    fun ts ys he i m hm hheeded => he.ends h hm hheeded⟩
  · have hhistory := history_of_run h hm
    have hwithin := hhistory.within hall
    refine ⟨hwithin.rounds, hwithin.waits, hwithin.writes, fun budget hbudget => ?_,
      hhistory.length_turns_le⟩
    have hpolls : m.effort.polls ≤ settings.pollLimit := hwithin.polls
    rwa [TrackerSettings.pollLimit, hbudget] at hpolls
  · obtain ⟨t₁, m', hturn, rfl⟩ := turns_of_step hm hstep
    have hcounts := hturn.counts
    exact ⟨m', get?_place_self ..,
      hcounts.writes, hcounts.waits, hcounts.polls, hcounts.polls_le⟩
  · intro i m ss status ys t' hm hphase hss hstatus hne hrun
    have hskips : Skips t status m := by
      refine .ready hphase (hready hm hphase) fun _ ss' hss' => ?_
      rw [hss, Except.ok.injEq] at hss'
      exact hss' ▸ hstatus
    obtain ⟨m', hm', hskips'⟩ := ht.run_skips hrun hne hm hskips
    exact ⟨m', hm', hskips'.effort⟩
  · intro i m ss hm hphase hss hdone
    obtain ⟨how, hended, heffort⟩ := beginRound_of_done (hready hm hphase) hss (hdone _)
    have hstep : t.step i .start = some (t.place i (t.beginRound m)) := by
      simp [step, hm, turn, hphase]
    refine ⟨_, _, how, hstep, hended, heffort, fun ys t'' hrun => ?_⟩
    exact (ht.sound.step hstep).ended_of_run hrun (get?_place_self ..) hended

/-- A monitor that may poll twice makes all the effort that it can, and is let go on until its end. -/
theorem monitors_make_bounded_effort_of_late_verdict :
    ∃ t ts ys m, (Tracker.empty ⟨10, some 2⟩ .ofLists).run
        [.acquire ⟨.replicate 1⟩, .add 0 ⟨.replicate 2⟩ .epoch, .step 0 .start,
          .step 0 (.finalized (.ok .success)), .step 0 (.answered (.ok none)),
          .step 0 (.awoken none)] = some t ∧
      Execution t ts ys ∧ (ts 1).monitors.get? 0 = some m ∧ m.effort = ⟨3, 1, 2, 2⟩ ∧
      m.phase = .ended .settled ∧
      ∃ n m' how, (ts n).monitors.get? 0 = some m' ∧ m'.phase = .ended how := by
  have h : (Tracker.empty ⟨10, some 2⟩ .ofLists).run
      [.acquire ⟨.replicate 1⟩, .add 0 ⟨.replicate 2⟩ .epoch, .step 0 .start,
        .step 0 (.finalized (.ok .success)), .step 0 (.answered (.ok none)),
        .step 0 (.awoken none)] = some _ := rfl
  have hlast : ((Tracker.empty ⟨10, some 2⟩ .ofLists).run
      [.acquire ⟨.replicate 1⟩, .add 0 ⟨.replicate 2⟩ .epoch, .step 0 .start,
        .step 0 (.finalized (.ok .success)), .step 0 (.answered (.ok none)),
        .step 0 (.awoken none)]).bind (fun t => t.act (.step 0
          (.answered (.ok (some ⟨⟨.replicate 2⟩, ⟨.replicate 1⟩, .epoch, true⟩))))) = some _ := rfl
  rw [h, Option.bind_some] at hlast
  -- after the verdict nothing happens any more
  have he := Execution.of_act (y := .upset none none none) hlast rfl
  refine ⟨_, _, _, _, h, he, rfl, by decide, by decide, ?_⟩
  refine (monitors_make_bounded_effort h).2.2.2.2.2 _ _ he 0 _ rfl fun n m hm hrunning => ?_
  cases n with
  | zero => exact ⟨0, _, le_rfl, rfl⟩
  | succ n =>
      cases hm
      cases hrunning

end Tracker

end ChainElection
