import Mathlib.Tactic
import ChainElection.Proofs.Monitor.Polls
import ChainElection.Session.Rehearsal

/-!
Polling against the clock: how long a monitor sleeps, how often it polls, and
what it comes to.

* `Rehearsal.putToSleep` is a rehearsal in which a monitor has just been told
  that nothing is known. `runMonitor_of_null`, `runMonitor_of_early` and
  `runMonitor_of_due`: the monitor sleeps for one interval and polls then.
* `polls_until_answer_or_limit` puts this together with what is known of the
  number of polls and of their outcome. Without a budget the limit is what a word
  can count: `late_record_is_never_asked_for`.
-/

namespace ChainElection

/-! ### Sleeping -/

namespace Rehearsal

variable {r : Rehearsal} {id due : ℕ} {m : Monitor} {n : UInt32}

/-- The rehearsal once a monitor that waits for an answer has been told nothing, and sleeps. -/
def putToSleep (r : Rehearsal) (id : ℕ) (m : Monitor) (n : UInt32) : Rehearsal :=
  { r.withTracker (r.tracker.place id (m.goTo (.sleeping n))) with
    alarms := r.alarms.set id (r.clock + r.tracker.settings.pollInterval) }

/-- The rehearsal once a sleeping monitor goes for the next poll. -/
def wakeUp (r : Rehearsal) (id : ℕ) (m : Monitor) (n : UInt32) : Rehearsal :=
  r.withTracker (r.tracker.place id (r.tracker.poll m n))

/-- A monitor that is told nothing sleeps, and has set its alarm. -/
lemma runMonitor_of_null (hm : r.tracker.monitors.get? id = some m) (hphase : m.phase = .polling n)
    (hlive : r.tracker.scopes.isAborted m.signal = false) (hnull : r.script.poll m.hash = .ok none)
    (k : ℕ) : r.runMonitor id (k + 1) = (r.putToSleep id m n).runMonitor id k := by
  have hevent : r.nextEvent id m = some (.answered (.ok none)) := by
    simp [nextEvent, hphase, hlive, hnull]
  have hstep : r.session.stepMonitor id (.answered (.ok none)) =
      some { r.session with tracker := r.tracker.place id (m.goTo (.sleeping n)) } := by
    have hasleep : r.session.tracker.step id (.answered (.ok none)) =
        some (r.tracker.place id (m.goTo (.sleeping n))) := Tracker.step_null hm hphase hlive
    rw [Session.stepMonitor, hasleep, Option.map_some]
  rw [runMonitor, hm]
  simp only [hevent, hstep]
  congr 1
  have hplaced : ((r.tracker.place id (m.goTo (.sleeping n))).monitors.get? id).map Monitor.phase =
      some (.sleeping n) := by
    rw [Tracker.get?_place_monitors, if_pos rfl]
    rfl
  simp only [setAlarm, tracker] at hplaced ⊢
  rw [hplaced]
  rfl

/-- A monitor sleeps on as long as its alarm is not due. -/
lemma runMonitor_of_early (hm : r.tracker.monitors.get? id = some m) (hphase : m.phase = .sleeping n)
    (hlive : r.tracker.scopes.isAborted m.signal = false) (halarm : r.alarms.get? id = some due)
    (hearly : r.clock < due) (k : ℕ) : r.runMonitor id k = r := by
  have hevent : r.nextEvent id m = none := by
    simp [nextEvent, hphase, hlive, halarm, hearly]
  cases k with
  | zero => rfl
  | succ k =>
      rw [runMonitor, hm]
      simp only [hevent]

/-- A monitor goes for its next poll once its alarm is due. -/
lemma runMonitor_of_due (hm : r.tracker.monitors.get? id = some m) (hphase : m.phase = .sleeping n)
    (hlive : r.tracker.scopes.isAborted m.signal = false) (halarm : r.alarms.get? id = some due)
    (hdue : due ≤ r.clock) (k : ℕ) :
    r.runMonitor id (k + 1) = (r.wakeUp id m n).runMonitor id k := by
  have hevent : r.nextEvent id m = some (.awoken none) := by
    simp [nextEvent, hphase, hlive, halarm, hdue]
  have hstep : r.session.stepMonitor id (.awoken none) =
      some { r.session with tracker := r.tracker.place id (r.tracker.poll m n) } := by
    have hawake : r.session.tracker.step id (.awoken none) =
        some (r.tracker.place id (r.tracker.poll m n)) := Tracker.step_awoken hm hphase hlive none
    rw [Session.stepMonitor, hawake, Option.map_some]
  rw [runMonitor, hm]
  simp only [hevent, hstep]
  rfl

/-- Once a monitor has been told nothing it sleeps for one interval, however long the others take, and goes
for its next poll then. -/
lemma sleeps_one_interval (hm : r.tracker.monitors.get? id = some m) (hphase : m.phase = .polling n)
    (hlive : r.tracker.scopes.isAborted m.signal = false) (hnull : r.script.poll m.hash = .ok none)
    (span k : ℕ) :
    r.runMonitor id 1 = r.putToSleep id m n ∧
    (span < r.tracker.settings.pollInterval →
      { r.putToSleep id m n with clock := r.clock + span }.runMonitor id k =
        { r.putToSleep id m n with clock := r.clock + span }) ∧
    (r.tracker.settings.pollInterval ≤ span →
      { r.putToSleep id m n with clock := r.clock + span }.runMonitor id (k + 1) =
        ({ r.putToSleep id m n with clock := r.clock + span }.wakeUp id
          (m.goTo (.sleeping n)) n).runMonitor id k) := by
  have hasleep : (r.putToSleep id m n).tracker.monitors.get? id = some (m.goTo (.sleeping n)) := by
    rw [putToSleep, withTracker, tracker, Tracker.get?_place_monitors, if_pos rfl]
  have halarm : (r.putToSleep id m n).alarms.get? id =
      some (r.clock + r.tracker.settings.pollInterval) := by
    rw [putToSleep, Table.get?_set, if_pos rfl]
  refine ⟨runMonitor_of_null hm hphase hlive hnull 0, fun hearly => ?_, fun hdue => ?_⟩
  · have hbefore : r.clock + span < r.clock + r.tracker.settings.pollInterval := by omega
    exact runMonitor_of_early (r := { r.putToSleep id m n with clock := r.clock + span })
      hasleep rfl hlive halarm hbefore k
  · have hafter : r.clock + r.tracker.settings.pollInterval ≤ r.clock + span := by omega
    exact runMonitor_of_due (r := { r.putToSleep id m n with clock := r.clock + span })
      hasleep rfl hlive halarm hafter k

end Rehearsal

/-! ### Polling -/

namespace Tracker

variable {settings : TrackerSettings} {store : SubmissionStore} {xs : List TrackerAction} {t : Tracker}
  {i : ℕ} {m : Monitor} {w : ℕ → PollAnswer}

/-- As long as its signal is alive, a monitor polls until it is told something, or until it has polled as
often as it may; without a budget, its word sets the limit. Between two polls it takes two turns, in which
it falls asleep and wakes up, and it sleeps for one interval. Once it has ended after polling, or because
it may not poll at all, it has polled just as often as this says: what the first record says is written,
unless the store fails, an error is passed on, and if it was too late for another poll the submission is
still approved. And it does come to that, whatever it is told, if it is let go on. -/
theorem polls_until_answer_or_limit (h : (Tracker.empty settings store).run xs = some t)
    (hm : t.monitors.get? i = some m) (hlive : t.scopes.isAborted m.signal = false)
    (hkill : .kill i ∉ xs) (hhears : Hears w (answersTo i xs)) :
    (m.effort.polls : ℕ∞) ≤ min (settings.pollLimit : ℕ∞) (firstAnswer w) ∧
    (m.isRunning = true → Course settings (turnsOf i xs) m) ∧
    (m.phase.expects = some .approved → t.store.Holds m .approved) ∧
    (∀ how, m.phase = .ended how → 0 < m.effort.polls ∨ how = .outOfPolls →
      Concludes (.empty settings store) w i xs m how) ∧
    (m.phase.expects = some .approved → ∃ ys t' m' how,
      (∀ y ∈ ys, ∃ event, y = .step i event) ∧ t.run ys = some t' ∧ t'.monitors.get? i = some m' ∧
      m'.phase = .ended how ∧ Hears w (answersTo i (xs ++ ys)) ∧
      Concludes (.empty settings store) w i (xs ++ ys) m' how) ∧
    ∀ (r : Rehearsal) j m₁ n span k, r.tracker.monitors.get? j = some m₁ → m₁.phase = .polling n →
      r.tracker.scopes.isAborted m₁.signal = false → r.script.poll m₁.hash = .ok none →
      r.runMonitor j 1 = r.putToSleep j m₁ n ∧
      (span < r.tracker.settings.pollInterval →
        { r.putToSleep j m₁ n with clock := r.clock + span }.runMonitor j k =
          { r.putToSleep j m₁ n with clock := r.clock + span }) ∧
      (r.tracker.settings.pollInterval ≤ span →
        { r.putToSleep j m₁ n with clock := r.clock + span }.runMonitor j (k + 1) =
          ({ r.putToSleep j m₁ n with clock := r.clock + span }.wakeUp j
            (m₁.goTo (.sleeping n)) n).runMonitor j k) := by
  have hcourse : m.isRunning = true → Course settings (turnsOf i xs) m := (history_of_run h hm).course
  have hends : ∀ {how}, m.phase = .ended how → 0 < m.effort.polls ∨ how = .outOfPolls →
      Concludes (.empty settings store) w i xs m how := by
    intro how hended hpolled
    refine concludes_of_run h hm hlive hkill hhears hended fun hnone => ?_
    exact hpolled.resolve_left (by omega)
  have hwatches : m.phase.expects = some .approved → t.Watches i m := fun hexpects =>
    ⟨hm, isRunning_of_expects hexpects, hlive⟩
  refine ⟨?_, hcourse, fun hexpects => holds_of_expects h (hwatches hexpects) hexpects,
    fun how hended hpolled => hends hended hpolled,
    fun hexpects => exists_verdict h (hwatches hexpects) hexpects hkill hhears,
    fun r j m₁ n span k hm₁ hphase hlive₁ hnull =>
      Rehearsal.sleeps_one_interval hm₁ hphase hlive₁ hnull span k⟩
  cases hrunning : m.isRunning with
  | true => exact (hcourse hrunning).polls_le hhears
  | false =>
      obtain ⟨how, hended⟩ := Monitor.isRunning_eq_false_iff.mp hrunning
      rcases Nat.eq_zero_or_pos m.effort.polls with hnone | hpolled
      · rw [hnone, Nat.cast_zero]
        exact zero_le
      · exact (hends hended (.inl hpolled)).polls.le

/-- A monitor may poll three times, and is told nothing first and the verdict then. -/
theorem polls_until_answer_or_limit_of_second_answer :
    ∃ t m, (Tracker.empty ⟨10, some 3⟩ .ofLists).run
        [.acquire ⟨.replicate 1⟩, .add 0 ⟨.replicate 2⟩ .epoch, .step 0 .start,
          .step 0 (.finalized (.ok .success)), .step 0 (.answered (.ok none)), .step 0 (.awoken none),
          .step 0 (.answered (.ok (some ⟨⟨.replicate 2⟩, ⟨.replicate 1⟩, .epoch, false⟩)))] = some t ∧
      t.monitors.get? 0 = some m ∧ m.effort.polls = 2 ∧
      (2 : ℕ∞) = min (3 : ℕ∞) (firstAnswer fun k => if k = 0 then .ok none else
        .ok (some ⟨⟨.replicate 2⟩, ⟨.replicate 1⟩, .epoch, false⟩)) ∧
      t.store.contents ⟨.replicate 1⟩ = .ok [⟨⟨.replicate 2⟩, .discarded, .epoch⟩] := by
  have h : (Tracker.empty ⟨10, some 3⟩ .ofLists).run
      [.acquire ⟨.replicate 1⟩, .add 0 ⟨.replicate 2⟩ .epoch, .step 0 .start,
        .step 0 (.finalized (.ok .success)), .step 0 (.answered (.ok none)), .step 0 (.awoken none),
        .step 0 (.answered (.ok (some ⟨⟨.replicate 2⟩, ⟨.replicate 1⟩, .epoch, false⟩)))] = some _ := rfl
  have hhears : Hears (fun k => if k = 0 then .ok none else
      .ok (some ⟨⟨.replicate 2⟩, ⟨.replicate 1⟩, .epoch, false⟩)) (answersTo 0
        [.acquire ⟨.replicate 1⟩, .add 0 ⟨.replicate 2⟩ .epoch, .step 0 .start,
          .step 0 (.finalized (.ok .success)), .step 0 (.answered (.ok none)), .step 0 (.awoken none),
          .step 0 (.answered (.ok (some ⟨⟨.replicate 2⟩, ⟨.replicate 1⟩, .epoch, false⟩)))]) := by
    rintro (_ | _ | i) answer hi
    · exact (Option.some.inj hi).symm
    · exact (Option.some.inj hi).symm
    · cases hi
  have hpolls := (polls_until_answer_or_limit h rfl (by decide) (by simp) hhears).2.2.2.1
  exact ⟨_, _, h, rfl, rfl, (hpolls .settled rfl (.inl (by decide))).polls, by decide⟩

/-- The first record would come with the poll after the last one that a word can count. Without a budget a
monitor goes for that poll, and breaks down; the ballot is still approved. -/
theorem late_record_is_never_asked_for :
    let w : ℕ → PollAnswer := fun k =>
      if k < Numeral.max32 then .ok none else .ok (some ⟨⟨.replicate 2⟩, ⟨.replicate 1⟩, .epoch, true⟩)
    firstAnswer w = (Numeral.max32 + 1 : ℕ) ∧
    ∃ t m, (Tracker.empty ⟨10, none⟩ .ofLists).run
        ([.acquire ⟨.replicate 1⟩, .add 0 ⟨.replicate 2⟩ .epoch, .step 0 .start,
          .step 0 (.finalized (.ok .success))] ++ silence 0 Numeral.max32) = some t ∧
      Hears w (answersTo 0 ([.acquire ⟨.replicate 1⟩, .add 0 ⟨.replicate 2⟩ .epoch, .step 0 .start,
        .step 0 (.finalized (.ok .success))] ++ silence 0 Numeral.max32)) ∧
      t.monitors.get? 0 = some m ∧ t.scopes.isAborted m.signal = false ∧
      m.phase = .ended .brokeDown ∧ m.effort.polls = Numeral.max32 ∧
      t.store.contents ⟨.replicate 1⟩ = .ok [⟨⟨.replicate 2⟩, .approved, .epoch⟩] := by
  intro w
  have hnull : ∀ k < Numeral.max32, w k = .ok none := fun k hk => if_pos hk
  have hrecord : w Numeral.max32 = .ok (some ⟨⟨.replicate 2⟩, ⟨.replicate 1⟩, .epoch, true⟩) :=
    if_neg (lt_irrefl _)
  obtain ⟨s, m₀, hs, hpolls, hcontents, hcount⟩ :
      ∃ s m, (Tracker.empty ⟨10, none⟩ .ofLists).run
          [.acquire ⟨.replicate 1⟩, .add 0 ⟨.replicate 2⟩ .epoch, .step 0 .start,
            .step 0 (.finalized (.ok .success))] = some s ∧
        s.AwaitsPoll 0 m 1 ∧
        s.store.contents ⟨.replicate 1⟩ = .ok [⟨⟨.replicate 2⟩, .approved, .epoch⟩] ∧
        m.effort.polls = 1 :=
    ⟨_, _, rfl, ⟨rfl, ⟨1, rfl, rfl⟩, by decide, rfl⟩, by decide, rfl⟩
  obtain ⟨t, m, hrun, haside, hm, hsame, hphase, hmade⟩ :=
    hpolls.run_overrun (Nat.add_comm 1 Numeral.max32)
  refine ⟨firstAnswer_eq hnull (by rw [hrecord]; exact nofun), t, m, ?_, ?_, hm, ?_, hphase, by omega,
    haside.store ▸ hcontents⟩
  · rw [run_append, hs, Option.bind_some, hrun]
  · rw [answersTo, turnsOf_append, List.filterMap_append, ← answersTo, ← answersTo, answersTo_silence]
    exact hears_replicate hnull
  · rw [haside.scopes, hsame.signal, hpolls.live]

end Tracker

end ChainElection
