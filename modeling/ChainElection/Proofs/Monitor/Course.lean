import Mathlib.Tactic
import ChainElection.Proofs.Monitor.Fate

/-!
Courses: which turns a monitor has taken to be where it is.

A monitor comes to its first poll with its first turn, or with that in which the
transaction is finalized. From then on it takes two turns for each poll that is
made in vain: it is told that nothing is known, and it wakes up.

* `Tracker.turnsOf` are the turns of one monitor in a run, `Tracker.answersTo`
  the answers to its polls.
* `Tracker.Asks` takes a poll apart, `Tracker.Rounds` the end of a round under a
  live signal.
* `Tracker.Course` is what a running monitor has been told so far, with its
  effort. `Turns.course`: one more turn under a live signal continues it.
* `Tracker.History` adds how monitors end; `run_history` is what is known of the
  monitors after a run.
-/

namespace ChainElection

/-- What the verification service says to a poll. -/
abbrev PollAnswer := Except ClientError (Option SubmissionRecord)

/-- The answer to a poll that an event brings along. -/
def MonitorEvent.answer? : MonitorEvent → Option PollAnswer
  | .answered answer => some answer
  | _ => none

/-- What an event tells a monitor, if it is a turn of this monitor. -/
def TrackerAction.turnOf (id : ℕ) : TrackerAction → Option MonitorEvent
  | .step j event => if j = id then some event else none
  | _ => none

/-- How often a monitor can poll: as often as it may, or as often as its word can count. -/
def TrackerSettings.pollLimit (s : TrackerSettings) : ℕ := s.maxPolls.elim Numeral.max32 UInt32.toNat

namespace Tracker

open Submission

variable {t t' u : Tracker} {m m' : Monitor} {event : MonitorEvent} {id : ℕ} {x : TrackerAction}
  {xs ys : List TrackerAction} {es : List MonitorEvent} {settings : TrackerSettings}
  {next : SubmissionStatus}

/-! ### Turns in a run -/

/-- What a monitor was told in a run, turn by turn. -/
def turnsOf (id : ℕ) (xs : List TrackerAction) : List MonitorEvent :=
  xs.filterMap (TrackerAction.turnOf id)

/-- The answers to a monitor's polls in a run. -/
def answersTo (id : ℕ) (xs : List TrackerAction) : List PollAnswer :=
  (turnsOf id xs).filterMap MonitorEvent.answer?

@[simp] lemma turnsOf_append (id : ℕ) (xs ys : List TrackerAction) :
    turnsOf id (xs ++ ys) = turnsOf id xs ++ turnsOf id ys := List.filterMap_append

@[simp] lemma turnsOf_step (id : ℕ) (event : MonitorEvent) (xs : List TrackerAction) :
    turnsOf id (.step id event :: xs) = event :: turnsOf id xs := by
  simp [turnsOf, TrackerAction.turnOf]

lemma turnOf_eq_some_iff : x.turnOf id = some event ↔ x = .step id event := by
  cases x with
  | step j e => simp [TrackerAction.turnOf]
  | _ => simp [TrackerAction.turnOf]

/-- What happens to others is no turn of a monitor. -/
lemma turnsOf_of_other (hother : ∀ event, x ≠ .step id event) : turnsOf id [x] = [] := by
  cases hx : x.turnOf id with
  | none => simp [turnsOf, hx]
  | some event => exact absurd (turnOf_eq_some_iff.mp hx) (hother event)

/-- A monitor that is not there after a run has not taken a turn in it. -/
lemma turnsOf_eq_nil (ht : t.Sound) (h : t.run xs = some t') (hnone : t'.monitors.get? id = none) :
    turnsOf id xs = [] := by
  rw [turnsOf, List.filterMap_eq_nil_iff]
  intro x hx
  by_contra hturn
  obtain ⟨event, hevent⟩ := Option.ne_none_iff_exists'.mp hturn
  obtain rfl := turnOf_eq_some_iff.mp hevent
  obtain ⟨us, vs, rfl⟩ := List.append_of_mem hx
  rw [run_append] at h
  obtain ⟨u, hu, hvs⟩ := Option.bind_eq_some_iff.mp h
  obtain ⟨u', hstep, -⟩ := Option.bind_eq_some_iff.mp hvs
  obtain ⟨m, -, -, hm, -, -⟩ := step_cases hstep
  obtain ⟨m', hm', -⟩ := (run_sound hu ht).exists_same_of_reaches ⟨_, hvs⟩ hm
  rw [hnone] at hm'
  cases hm'

/-! ### Polls -/

/-- The monitor once it has polled. -/
def polled (m : Monitor) : Monitor := { m with effort := { m.effort with polls := m.effort.polls + 1 } }

/-- What can come of the wish to poll: it is too late for another poll, or one more is made. -/
inductive Asks (t : Tracker) (m : Monitor) (n : UInt32) : Monitor → Prop where
  | usedUp {budget : UInt32} (hbudget : t.settings.maxPolls = some budget)
      (hlimit : t.settings.pollLimit ≤ n.toNat) : Asks t m n (m.finish .outOfPolls)
  | overrun (hunlimited : t.settings.maxPolls = none) (hlimit : t.settings.pollLimit ≤ n.toNat) :
      Asks t m n (m.finish .brokeDown)
  | made (hroom : n.toNat < t.settings.pollLimit) (hsucc : (n + 1).toNat = n.toNat + 1) :
      Asks t m n ((polled m).goTo (.polling (n + 1)))

lemma poll_asks (t : Tracker) (m : Monitor) (n : UInt32) : Asks t m n (t.poll m n) := by
  have hword : n.toNat ≤ Numeral.max32 := Nat.le_of_lt_succ n.toNat_lt
  cases hbudget : t.settings.maxPolls with
  | none =>
      have hlimit : t.settings.pollLimit = Numeral.max32 := by
        rw [TrackerSettings.pollLimit, hbudget, Option.elim_none]
      by_cases hfull : n.toNat = Numeral.max32
      · rw [poll_of_full hbudget hfull]
        exact .overrun hbudget (by omega)
      · rw [poll_of_unlimited hbudget hfull]
        exact .made (by omega) (toNat_succ hfull)
  | some budget =>
      have hlimit : t.settings.pollLimit = budget.toNat := by
        rw [TrackerSettings.pollLimit, hbudget, Option.elim_some]
      have hbudgetWord : budget.toNat ≤ Numeral.max32 := Nat.le_of_lt_succ budget.toNat_lt
      by_cases hle : budget ≤ n
      · have hpoll : t.poll m n = m.finish .outOfPolls := by simp [poll, hbudget, hle]
        rw [hpoll]
        exact .usedUp hbudget (hlimit ▸ UInt32.le_iff_toNat_le.mp hle)
      · have hlt : n.toNat < budget.toNat := by
          rwa [UInt32.le_iff_toNat_le, not_le] at hle
        have hroom : n.toNat ≠ Numeral.max32 := by omega
        have hpoll : t.poll m n = (polled m).goTo (.polling (n + 1)) := by
          simp [poll, hbudget, hle, hroom, polled]
        rw [hpoll]
        exact .made (hlimit ▸ hlt) (toNat_succ hroom)

/-! ### Rounds -/

/-- The monitor once it has written. -/
def wrote (m : Monitor) : Monitor := { m with effort := { m.effort with writes := m.effort.writes + 1 } }

/-- A monitor that begins a round with a wait has counted both. -/
lemma effort_of_awaiting (hphase : (t.beginRound m).phase = .awaitingFinality) :
    (t.beginRound m).effort =
      ⟨m.effort.rounds + 1, m.effort.waits + 1, m.effort.polls, m.effort.writes⟩ := by
  rw [beginRound] at hphase ⊢
  dsimp only at hphase ⊢
  split at hphase
  · cases hphase
  · rename_i hlive
    rw [if_neg hlive]
    split at hphase
    · cases hphase
    · cases hphase
    · rw [Monitor.effort_goTo]
    · rename_i hstatus
      rcases poll_cases t _ 0 with ⟨h, -⟩ | ⟨h, -⟩ | ⟨h, -⟩ <;> rw [h] at hphase <;> cases hphase
    · cases hphase

/-- The new status of a monitor's submission is saved. -/
structure Wrote (t : Tracker) (m : Monitor) (next : SubmissionStatus) (t' : Tracker) : Prop where
  settings : t'.settings = t.settings
  scopes : t'.scopes = t.scopes
  status : ∃ ss, t'.store.contents m.account = .ok ss ∧ statusIn ss m.hash = some next

lemma Wrote.status_of_load (h : Wrote t m next t') {ss : List Submission}
    (hload : t'.store.load m.account = .ok ss) : statusIn ss m.hash = some next := by
  obtain ⟨ss', hss', hstatus⟩ := h.status
  rw [SubmissionStore.contents_of_load hload, Except.ok.injEq] at hss'
  rw [hss', hstatus]

/-- A submission in step that is moved on has its new status afterwards. -/
lemma persist_wrote {status : SubmissionStatus} (hstatus : t.StatusIs m status)
    (hlegal : status.canBecome next = true) (h : t.persist m next = .ok (u, m')) :
    m' = wrote m ∧ Wrote t m next u := by
  rw [persist] at h
  split at h
  · cases h
  · rename_i ss hload
    obtain ⟨ss', hmove⟩ :=
      moveFirst_of_statusIn (hstatus (SubmissionStore.contents_of_load hload)) hlegal
    rw [hmove] at h
    dsimp only at h
    split at h
    · cases h
    · rename_i store hsave
      cases h
      refine ⟨rfl, rfl, rfl, ss', ?_, ?_⟩
      · rw [(moveFirst_changes hmove).contents_save hload hsave, if_pos rfl]
      · obtain ⟨pre, s, post, -, hash, hpre, hcan, rfl⟩ := moveFirst_cases hmove
        rw [← hash] at hpre ⊢
        exact (shows_moved hpre hcan).now

/-- The ways for a monitor in step to end its round under a live signal: the store fails before or after
the write, or the monitor goes on to poll for a submission that is approved now, or it has settled it. -/
inductive Rounds (t : Tracker) (m : Monitor) (next : SubmissionStatus) : Tracker → Monitor → Prop where
  | refused {e : ClientError}
      (hfails : t.store.load m.account = .error e ∨ ∃ ss, t.store.save m.account ss = .error e) :
      Rounds t m next t (m.finish (.failed .store e))
  | unread {t' : Tracker} {e : ClientError} (hwrote : Wrote t m next t')
      (hload : t'.store.load m.account = .error e) :
      Rounds t m next t' ((nextRound (wrote m)).finish (.failed .store e))
  | approved {t' : Tracker} {m' : Monitor} (hwrote : Wrote t m next t') (hnext : next = .approved)
      (hasks : Asks t' (nextRound (wrote m)) 0 m') : Rounds t m next t' m'
  | settled {t' : Tracker} (hwrote : Wrote t m next t') (hfinal : next.isFinal = true) :
      Rounds t m next t' ((nextRound (wrote m)).finish .settled)

lemma endRound_rounds {status : SubmissionStatus} (hlive : t.scopes.isAborted m.signal = false)
    (hstatus : t.StatusIs m status) (hlegal : status.canBecome next = true) :
    Rounds t m next (t.endRound m next).1 (t.endRound m next).2 := by
  rw [endRound]
  rcases persist_of_statusIs hstatus hlegal with ⟨e, h, hfails⟩ | ⟨⟨u, m₁⟩, h⟩ <;> rw [h]
  · exact .refused hfails
  · obtain ⟨rfl, hwrote⟩ := persist_wrote hstatus hlegal h
    have hlive' : u.scopes.isAborted (wrote m).signal = false := by
      rw [hwrote.scopes]
      exact hlive
    have hbegins := beginRound_begins hlive'
    dsimp only
    generalize u.beginRound (wrote m) = m' at hbegins
    -- the status that is looked up now is the one that was written
    cases hbegins with
    | failed hload => exact .unread hwrote hload
    | missing hload hnone =>
        have hnow := hwrote.status_of_load hload
        exact absurd (hnow.symm.trans hnone) (Option.some_ne_none next)
    | committed hload hcommitted =>
        have hnow := hwrote.status_of_load hload
        obtain rfl : next = .committed := Option.some.inj (hnow.symm.trans hcommitted)
        cases status <;> cases hlegal
    | approved hload happroved =>
        have hnow := hwrote.status_of_load hload
        exact .approved hwrote (Option.some.inj (hnow.symm.trans happroved)) (poll_asks ..)
    | settled hload hsettled hfinal =>
        have hnow := hwrote.status_of_load hload
        obtain rfl := Option.some.inj (hnow.symm.trans hsettled)
        exact .settled hwrote hfinal

/-- A monitor that writes anything else than that its submission is approved has come to its end. -/
lemma Rounds.ended (h : Rounds t m next t' m') (hnext : next ≠ .approved) :
    (∃ how, m'.phase = .ended how) ∧ m'.effort.waits = m.effort.waits := by
  cases h with
  | refused _ => exact ⟨⟨_, rfl⟩, rfl⟩
  | unread _ _ => exact ⟨⟨_, rfl⟩, rfl⟩
  | settled _ _ => exact ⟨⟨_, rfl⟩, rfl⟩
  | approved _ happroved _ => exact absurd happroved hnext

/-! ### The course of a monitor -/

/-- The turns in which a monitor comes to its first poll, with the rounds, the waits and the writes
that they take. -/
inductive Approach : List MonitorEvent → ℕ → ℕ → ℕ → Prop where
  | direct : Approach [.start] 1 0 0
  | finalized : Approach [.start, .finalized (.ok .success)] 2 1 1

/-- The turns that follow on a poll that is made in vain. -/
def nap (failure : Option ClientError) : List MonitorEvent := [.answered (.ok none), .awoken failure]

/-- What a running monitor has been told so far, turn by turn, and the effort that it has made. -/
inductive Course (settings : TrackerSettings) : List MonitorEvent → Monitor → Prop where
  | ready {m : Monitor} (hphase : m.phase = .ready) (heffort : m.effort = ⟨0, 0, 0, 0⟩) :
      Course settings [] m
  | waiting {m : Monitor} (hphase : m.phase = .awaitingFinality) (heffort : m.effort = ⟨1, 1, 0, 0⟩) :
      Course settings [.start] m
  | polling {m : Monitor} {es : List MonitorEvent} {rounds waits writes : ℕ} {n : UInt32}
      {naps : List (Option ClientError)} (happroach : Approach es rounds waits writes)
      (hphase : m.phase = .polling n) (hn : n.toNat = naps.length + 1)
      (heffort : m.effort = ⟨rounds, waits, n.toNat, writes⟩) (hlimit : n.toNat ≤ settings.pollLimit) :
      Course settings (es ++ naps.flatMap nap) m
  | sleeping {m : Monitor} {es : List MonitorEvent} {rounds waits writes : ℕ} {n : UInt32}
      {naps : List (Option ClientError)} (happroach : Approach es rounds waits writes)
      (hphase : m.phase = .sleeping n) (hn : n.toNat = naps.length + 1)
      (heffort : m.effort = ⟨rounds, waits, n.toNat, writes⟩) (hlimit : n.toNat ≤ settings.pollLimit) :
      Course settings (es ++ naps.flatMap nap ++ [.answered (.ok none)]) m

/-- Only a running monitor has a course. -/
lemma Course.isRunning (h : Course settings es m) : m.isRunning = true := by
  cases h with
  | ready hphase _ => rw [Monitor.isRunning, hphase]
  | waiting hphase _ => rw [Monitor.isRunning, hphase]
  | polling _ hphase _ _ _ => rw [Monitor.isRunning, hphase]
  | sleeping _ hphase _ _ _ => rw [Monitor.isRunning, hphase]

/-- A poll continues a course, if it is made. -/
lemma Asks.course {n : UInt32} {rounds waits writes : ℕ} {naps : List (Option ClientError)}
    (h : Asks t m n m') (hrunning : m'.isRunning = true) (happroach : Approach es rounds waits writes)
    (hn : n.toNat = naps.length) (heffort : m.effort = ⟨rounds, waits, n.toNat, writes⟩) :
    Course t.settings (es ++ naps.flatMap nap) m' := by
  cases h with
  | usedUp _ _ => cases hrunning
  | overrun _ _ => cases hrunning
  | made hroom hsucc =>
      refine .polling happroach rfl ?_ ?_ ?_
      · rw [hsucc, hn]
      · rw [Monitor.effort_goTo, polled, heffort, hsucc]
      · omega

/-- A turn under a live signal continues the course of a monitor, unless it ends it. -/
theorem Turns.course (h : Turns t m event t' m') (hlive : t.scopes.isAborted m.signal = false)
    (hin : t.InStep m) (hcourse : Course t.settings es m) (hrunning : m'.isRunning = true) :
    Course t.settings (es ++ [event]) m' := by
  cases h with
  | nodeFailed _ _ => cases hrunning
  | verifierFailed _ _ => cases hrunning
  | stopped _ _ => cases hrunning
  | gaveUp _ haborted _ => exact absurd haborted (by simp [hlive])
  | started hphase =>
      cases hcourse with
      | ready _ heffort =>
          have hbegins := beginRound_begins hlive
          have hwait := effort_of_awaiting (t := t) (m := m)
          rw [heffort] at hwait
          generalize t.beginRound m = m' at hbegins hrunning hwait ⊢
          cases hbegins with
          | failed _ => cases hrunning
          | missing _ _ => cases hrunning
          | settled _ _ _ => cases hrunning
          | committed _ _ => exact .waiting rfl (hwait rfl)
          | approved _ _ =>
              have hasks := poll_asks t (nextRound m) 0
              have heffort' : (nextRound m).effort = ⟨1, 0, UInt32.toNat 0, 0⟩ := by
                rw [nextRound, heffort]
                rfl
              exact hasks.course hrunning .direct List.length_nil.symm heffort'
      | _ => simp_all
  | finalized hphase _ outcome =>
      cases hcourse with
      | waiting _ heffort =>
          have hstatus : t.StatusIs m .committed := hin.status (by rw [hphase]; rfl)
          have hrounds := endRound_rounds hlive hstatus (canBecome_statusAfter outcome)
          generalize (t.endRound m (statusAfter outcome)).1 = t',
            (t.endRound m (statusAfter outcome)).2 = m' at hrounds hrunning ⊢
          cases hrounds with
          | refused _ => cases hrunning
          | unread _ _ => cases hrunning
          | settled _ _ => cases hrunning
          | approved hwrote hnext hasks =>
              have heffort' : (nextRound (wrote m)).effort = ⟨2, 1, UInt32.toNat 0, 1⟩ := by
                rw [nextRound, wrote, heffort]
                rfl
              cases outcome with
              | failure _ => cases hnext
              | success =>
                  have hcourse' := hasks.course hrunning .finalized List.length_nil.symm heffort'
                  rwa [hwrote.settings] at hcourse'
      | _ => simp_all
  | judged hphase _ r =>
      have hstatus : t.StatusIs m .approved := hin.status (by rw [hphase]; rfl)
      have hrounds := endRound_rounds hlive hstatus (canBecome_statusOfVerdict r.verified)
      obtain ⟨⟨how, hended⟩, -⟩ := hrounds.ended (statusOfVerdict_ne_approved r.verified)
      rw [Monitor.isRunning, hended] at hrunning
      cases hrunning
  | fellAsleep hphase _ =>
      cases hcourse with
      | polling happroach hphase' hn heffort hlimit =>
          obtain rfl := MonitorPhase.polling.inj (hphase.symm.trans hphase')
          exact .sleeping happroach rfl hn heffort hlimit
      | _ => simp_all
  | awoke hphase _ failure =>
      cases hcourse with
      | @sleeping _ es _ _ _ n naps happroach hphase' hn heffort _ =>
          have hpolls := MonitorPhase.sleeping.inj (hphase.symm.trans hphase')
          have hasks := poll_asks t m n
          have hturns : es ++ naps.flatMap nap ++ [.answered (.ok none)] ++ [.awoken failure] =
              es ++ (naps ++ [failure]).flatMap nap := by simp [nap]
          rw [hturns, hpolls]
          rw [hpolls] at hrunning
          exact hasks.course hrunning happroach (by simp [hn]) heffort
      | _ => simp_all

/-! ### Histories -/

/-- What is known of a monitor after a run: it is on its course, or its last turn has ended it, or it
was killed. -/
inductive History (t₀ : Tracker) (id : ℕ) : List TrackerAction → Monitor → Prop where
  | going {xs : List TrackerAction} {m : Monitor} (hcourse : Course t₀.settings (turnsOf id xs) m) :
      History t₀ id xs m
  | ended {us vs : List TrackerAction} {event : MonitorEvent} {u u' : Tracker} {m m' : Monitor}
      (hu : t₀.run us = some u) (hm : u.monitors.get? id = some m)
      (hcourse : Course t₀.settings (turnsOf id us) m) (hturn : Turns u m event u' m')
      (hstep : u.step id event = some (u'.place id m')) (hended : m'.isRunning = false)
      (hlast : turnsOf id vs = []) : History t₀ id (us ++ .step id event :: vs) m'
  | killed {xs : List TrackerAction} {m : Monitor} (hcourse : Course t₀.settings (turnsOf id xs) m)
      (hkill : .kill id ∈ xs) : History t₀ id xs (m.finish .killed)

/-- A running monitor is on its course. -/
lemma History.course {t₀ : Tracker} (h : History t₀ id xs m) (hrunning : m.isRunning = true) :
    Course t₀.settings (turnsOf id xs) m := by
  cases h with
  | going hcourse => exact hcourse
  | ended _ _ _ _ _ hended _ =>
      rw [hended] at hrunning
      cases hrunning
  | killed _ _ => cases hrunning

/-- What others do is no part of a monitor's history. -/
lemma History.append {t₀ : Tracker} (h : History t₀ id xs m) (hys : turnsOf id ys = []) :
    History t₀ id (xs ++ ys) m := by
  cases h with
  | going hcourse => exact .going (by rwa [turnsOf_append, hys, List.append_nil])
  | killed hcourse hkill =>
      exact .killed (by rwa [turnsOf_append, hys, List.append_nil]) (List.mem_append_left ys hkill)
  | ended hu hm hcourse hturn hstep hended hlast =>
      rw [List.append_assoc, List.cons_append]
      refine .ended hu hm hcourse hturn hstep hended ?_
      rw [turnsOf_append, hlast, hys, List.append_nil]

lemma run_settings (h : t.run xs = some t') : t'.settings = t.settings :=
  run_induction (P := fun u => u.settings = t.settings)
    (fun _ hact hu => (act_settings hact).trans hu) h rfl

/-- This is known of all monitors after a run. -/
theorem run_history {t₀ : Tracker} (h₀ : t₀.AllInStep) (hnone : ∀ {i}, t₀.monitors.get? i = none)
    (h : t₀.run xs = some t) (hm : t.monitors.get? id = some m) : History t₀ id xs m := by
  induction xs using List.reverseRecOn generalizing t m with
  | nil =>
      cases h
      rw [hnone] at hm
      cases hm
  | append_singleton us x ih =>
      rw [run_append] at h
      obtain ⟨u, hu, hx⟩ := Option.bind_eq_some_iff.mp h
      obtain ⟨t₁, hact, ht₁⟩ := Option.bind_eq_some_iff.mp hx
      cases ht₁
      cases act_becomes hact hm with
      | kept hm hother => exact (ih hu hm).append (turnsOf_of_other hother)
      | started _ hx hid _ _ =>
          have hsound := run_sound hu h₀.sound
          have hnew : u.monitors.get? id = none := by
            by_contra hold
            obtain ⟨n, hn⟩ := Option.ne_none_iff_exists'.mp hold
            exact absurd (hsound.monitor_lt hn) (not_lt.mpr hid)
          have hturns : turnsOf id (us ++ [x]) = [] := by
            rw [turnsOf_append, turnsOf_eq_nil h₀.sound hu hnew, List.nil_append]
            refine turnsOf_of_other fun event => ?_
            rcases hx with rfl | ⟨hash, now, rfl⟩ <;> exact nofun
          exact .going (hturns ▸ .ready rfl rfl)
      | @turned event _ n m hn _ =>
          obtain ⟨u', m', hturn, rfl⟩ := turns_of_step hn hact
          rw [get?_place_self, Option.some.injEq] at hm
          subst hm
          have hcourse := (ih hu hn).course hturn.isRunning
          cases hrunning : m'.isRunning with
          | false => exact .ended hu hn hcourse hturn hact hrunning rfl
          | true =>
              have hlive : u.scopes.isAborted n.signal = false := by
                by_contra haborted
                rw [Bool.not_eq_false] at haborted
                rw [(hturn.retires haborted).2.1.ended] at hrunning
                cases hrunning
              have hin := (run_allInStep hu h₀).inStep ⟨hn, hturn.isRunning, hlive⟩
              have hcourse' := hturn.course hlive hin ((run_settings hu).symm ▸ hcourse) hrunning
              rw [run_settings hu] at hcourse'
              refine .going ?_
              rwa [turnsOf_append, turnsOf_step]
      | killed hn hrunning =>
          have hother : turnsOf id [.kill id] = [] := turnsOf_of_other fun _ he => by cases he
          exact .killed (((ih hu hn).append hother).course hrunning)
            (List.mem_append_right us List.mem_cons_self)

lemma history_of_run {store : SubmissionStore} (h : (Tracker.empty settings store).run xs = some t)
    (hm : t.monitors.get? id = some m) : History (.empty settings store) id xs m :=
  run_history (.empty settings store) rfl h hm

end Tracker

end ChainElection
