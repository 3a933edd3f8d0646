import Mathlib.Tactic
import ChainElection.Proofs.Monitor.Abort

/-!
Phases: what a monitor that watches its submission knows about it.

Nobody else moves the submission as long as the monitor's signal is alive, so a
status that was looked up once is still that of the stored submission when the
monitor goes on. This is why the step that it then takes is always legal.

* `Tracker.InStep`: the phase of a monitor agrees with the stored status, and
  its count of polls with the polls that it has made.
* `Tracker.Excuses` lists the ways to end before the submission has come to its
  end.
* `Turns.fits`: a turn under a live signal leaves a monitor in step, and running
  unless it has an excuse or the submission is not pending any more.
* `Tracker.AllInStep` says this of all monitors that watch, whatever the lists
  are; `AllInStep.act` and `run_allInStep` keep it. `Tracker.Steady` adds that
  no hash occurs twice.
-/

namespace ChainElection

/-- The status that a submission has while its monitor is in a phase, if the phase says so. -/
def MonitorPhase.expects : MonitorPhase → Option SubmissionStatus
  | .awaitingFinality => some .committed
  | .polling _ | .sleeping _ => some .approved
  | _ => none

namespace Tracker

open Submission

variable {t t' : Tracker} {m m' : Monitor} {event : MonitorEvent} {id : ℕ} {x : TrackerAction}

/-- The stored submission of a monitor, if there is a list to look at, has the given status. -/
def StatusIs (t : Tracker) (m : Monitor) (status : SubmissionStatus) : Prop :=
  ∀ {ss}, t.store.contents m.account = .ok ss → statusIn ss m.hash = some status

/-- The monitor's phase agrees with the stored status, and its count of polls with what it has done. -/
structure InStep (t : Tracker) (m : Monitor) : Prop where
  status : ∀ {status}, m.phase.expects = some status → t.StatusIs m status
  counted : ∀ {polls}, m.phase = .polling polls ∨ m.phase = .sleeping polls →
    polls.toNat ≤ m.effort.polls

/-- The ways for a monitor to end although its submission may be pending: the node, the verification
service or the store has failed, the polls that it may make are used up, or it may make any number of
polls and has made as many as its word can count. -/
def Excuses (settings : TrackerSettings) (m : Monitor) : MonitorEnd → Prop
  | .failed .node _ | .failed .verifier _ | .failed .store _ => True
  | .outOfPolls => ∃ budget, settings.maxPolls = some budget ∧ budget.toNat ≤ m.effort.polls
  | .brokeDown => settings.maxPolls = none ∧ Numeral.max32 ≤ m.effort.polls
  | _ => False

/-- What comes out of a turn: the monitor is in step, and if it has ended while its submission is
pending, it has an excuse. A hash that occurs twice is looked up where it comes first, so the second part
is for lists of distinct hashes only. -/
structure Fits (t : Tracker) (m : Monitor) : Prop where
  inStep : t.InStep m
  attends : t.store.AllDistinct → ∀ {ss how}, t.store.contents m.account = .ok ss →
    m.hash ∈ pending ss → m.phase = .ended how → Excuses t.settings m how

/-! ### Endings -/

lemma inStep_of_ended {how : MonitorEnd} (h : m.phase = .ended how) : t.InStep m where
  status := by
    intro status hs
    rw [h] at hs
    cases hs
  counted := by
    intro polls hp
    rw [h] at hp
    simp at hp

lemma fits_of_excuse {how : MonitorEnd} (h : m.phase = .ended how)
    (hexcuse : Excuses t.settings m how) : t.Fits m := by
  refine ⟨inStep_of_ended h, fun _ _ _ _ _ hphase => ?_⟩
  rw [h, MonitorPhase.ended.injEq] at hphase
  exact hphase ▸ hexcuse

/-- A monitor whose submission is not pending needs no excuse. -/
lemma fits_of_notMem {how : MonitorEnd} (h : m.phase = .ended how)
    (hnot : t.store.AllDistinct → ∀ {ss}, t.store.contents m.account = .ok ss → m.hash ∉ pending ss) :
    t.Fits m :=
  ⟨inStep_of_ended h, fun hd _ _ hss hmem _ => absurd hmem (hnot hd hss)⟩

/-! ### Polls -/

/-- A poll of an approved submission is made, or there is an excuse not to make it. -/
lemma poll_fits {polls : UInt32} (hstatus : t.StatusIs m .approved)
    (hcount : polls.toNat ≤ m.effort.polls) : t.Fits (t.poll m polls) := by
  rcases poll_cases t m polls with ⟨h, budget, hb, hle⟩ | ⟨h, hunlimited, hfull⟩ | ⟨h, hfull⟩ <;> rw [h]
  · exact fits_of_excuse rfl ⟨budget, hb, (UInt32.le_iff_toNat_le.mp hle).trans hcount⟩
  · exact fits_of_excuse rfl ⟨hunlimited, hfull.symm.le.trans hcount⟩
  · refine ⟨⟨fun hs => ?_, fun hp => ?_⟩, fun _ _ _ _ _ hphase => by cases hphase⟩
    · cases hs
      exact hstatus
    · simp only [Monitor.phase_goTo, MonitorPhase.polling.injEq, reduceCtorEq, or_false] at hp
      subst hp
      have hlt := polls.toNat_lt
      have hsize : UInt32.size = 4294967296 := rfl
      simp only [Numeral.max32] at hfull
      rw [UInt32.toNat_add]
      simp only [Monitor.effort_goTo, UInt32.reduceToNat]
      omega

/-! ### Rounds -/

/-- The monitor in its next round. -/
def nextRound (m : Monitor) : Monitor :=
  { m with effort := { m.effort with rounds := m.effort.rounds + 1 } }

/-- The ways to begin a round under a live signal. -/
inductive Begins (t : Tracker) (m : Monitor) : Monitor → Prop where
  | failed {e : ClientError} (hload : t.store.load m.account = .error e) :
      Begins t m ((nextRound m).finish (.failed .store e))
  | missing {ss : List Submission} (hload : t.store.load m.account = .ok ss)
      (hstatus : statusIn ss m.hash = none) : Begins t m ((nextRound m).finish .missing)
  | committed {ss : List Submission} (hload : t.store.load m.account = .ok ss)
      (hstatus : statusIn ss m.hash = some .committed) {effort : Effort} :
      Begins t m ({ m with effort := effort }.goTo .awaitingFinality)
  | approved {ss : List Submission} (hload : t.store.load m.account = .ok ss)
      (hstatus : statusIn ss m.hash = some .approved) : Begins t m (t.poll (nextRound m) 0)
  | settled {ss : List Submission} {status : SubmissionStatus}
      (hload : t.store.load m.account = .ok ss) (hstatus : statusIn ss m.hash = some status)
      (hfinal : status.isFinal = true) : Begins t m ((nextRound m).finish .settled)

lemma statusOf_of_load {ss : List Submission} (hload : t.store.load m.account = .ok ss) :
    t.statusOf m = .ok (statusIn ss m.hash) := by
  rw [statusOf, hload, statusIn]

lemma beginRound_begins (hlive : t.scopes.isAborted m.signal = false) :
    t.Begins m (t.beginRound m) := by
  rw [beginRound]
  simp only [hlive, Bool.false_eq_true, if_false]
  cases hload : t.store.load m.account with
  | error e =>
      have hload' : t.store.load (nextRound m).account = .error e := hload
      have hstatusOf : t.statusOf (nextRound m) = .error e := by rw [statusOf, hload']
      rw [nextRound] at hstatusOf
      rw [hstatusOf]
      exact .failed hload
  | ok ss =>
      have hstatusOf : t.statusOf (nextRound m) = .ok (statusIn ss m.hash) :=
        statusOf_of_load (m := nextRound m) hload
      rw [nextRound] at hstatusOf
      rw [hstatusOf]
      cases hstatus : statusIn ss m.hash with
      | none => exact .missing hload hstatus
      | some status =>
          cases status with
          | committed => exact .committed hload hstatus
          | approved => exact .approved hload hstatus
          | rejected => exact .settled hload hstatus rfl
          | discarded => exact .settled hload hstatus rfl
          | verified => exact .settled hload hstatus rfl

/-- A list that was loaded is the one that is kept. -/
lemma statusIs_of_load {ss : List Submission} {status : SubmissionStatus}
    (hload : t.store.load m.account = .ok ss) (hstatus : statusIn ss m.hash = some status) :
    t.StatusIs m status := by
  intro ss' hss'
  rw [SubmissionStore.contents_of_load hload, Except.ok.injEq] at hss'
  exact hss' ▸ hstatus

/-- A submission that is not stored, or at the end of its way, is not pending. -/
lemma notMem_pending_of_load (hd : t.store.AllDistinct) {ss : List Submission}
    (hload : t.store.load m.account = .ok ss)
    (hstatus : ∀ {status}, statusIn ss m.hash = some status → status.isFinal = true)
    {ss' : List Submission} (hss' : t.store.contents m.account = .ok ss') :
    m.hash ∉ pending ss' := by
  intro hmem
  obtain ⟨status, hs, hfinal⟩ := (mem_pending_iff (hd _ _ hss')).mp hmem
  rw [SubmissionStore.contents_of_load hload, Except.ok.injEq] at hss'
  rw [hstatus (hss' ▸ hs)] at hfinal
  cases hfinal

/-- A monitor that begins a round goes on with its pending submission, or the store has failed or no poll
can be made. -/
lemma beginRound_fits (hlive : t.scopes.isAborted m.signal = false) : t.Fits (t.beginRound m) := by
  have hbegins := beginRound_begins hlive
  generalize t.beginRound m = m' at hbegins
  cases hbegins with
  | failed _ => exact fits_of_excuse rfl trivial
  | missing hload hstatus =>
      refine fits_of_notMem rfl fun hd => notMem_pending_of_load (m := m) hd hload fun hs => ?_
      rw [hstatus] at hs
      cases hs
  | committed hload hstatus =>
      refine ⟨⟨fun hs => ?_, fun hp => by simp at hp⟩, fun _ _ _ _ _ hphase => by cases hphase⟩
      cases hs
      exact statusIs_of_load (m := m) hload hstatus
  | approved hload hstatus =>
      exact poll_fits (m := nextRound m) (statusIs_of_load (m := m) hload hstatus) (Nat.zero_le _)
  | settled hload hstatus hfinal =>
      refine fits_of_notMem rfl fun hd => notMem_pending_of_load (m := m) hd hload fun hs => ?_
      rw [hstatus, Option.some.injEq] at hs
      exact hs ▸ hfinal

/-! ### Steps of the submission -/

/-- A submission in step can be moved on, unless the store fails. -/
lemma persist_of_statusIs {status next : SubmissionStatus} (hstatus : t.StatusIs m status)
    (hlegal : status.canBecome next = true) :
    (∃ e, t.persist m next = .error (.store, e) ∧
      (t.store.load m.account = .error e ∨ ∃ ss, t.store.save m.account ss = .error e)) ∨
    ∃ u, t.persist m next = .ok u := by
  rw [persist]
  cases hload : t.store.load m.account with
  | error e => exact .inl ⟨e, rfl, .inl rfl⟩
  | ok ss =>
      obtain ⟨ss', hmove⟩ :=
        moveFirst_of_statusIn (hstatus (SubmissionStore.contents_of_load hload)) hlegal
      simp only [hmove]
      cases hsave : t.store.save m.account ss' with
      | error e => exact .inl ⟨e, rfl, .inr ⟨ss', hsave⟩⟩
      | ok store => exact .inr ⟨_, rfl⟩

lemma endRound_fits {status next : SubmissionStatus} (hlive : t.scopes.isAborted m.signal = false)
    (hstatus : t.StatusIs m status) (hlegal : status.canBecome next = true) :
    (t.endRound m next).1.Fits (t.endRound m next).2 := by
  rw [endRound]
  rcases persist_of_statusIs hstatus hlegal with ⟨e, h, -⟩ | ⟨⟨t₁, m₁⟩, h⟩ <;> rw [h]
  · exact fits_of_excuse rfl trivial
  · obtain ⟨hw, hsame⟩ := persist_cases h
    refine beginRound_fits ?_
    rw [hw.scopes, hsame.signal]
    exact hlive

/-- A turn under a live signal leaves a monitor in step, and with its submission unless it has an excuse
or the submission has come to its end. -/
theorem Turns.fits (h : Turns t m event t' m') (hlive : t.scopes.isAborted m.signal = false)
    (hm : t.InStep m) : t'.Fits m' := by
  cases h with
  | started _ => exact beginRound_fits hlive
  | nodeFailed _ _ => exact fits_of_excuse rfl trivial
  | verifierFailed _ _ => exact fits_of_excuse rfl trivial
  | stopped _ haborted => exact absurd haborted (by simp [hlive])
  | finalized hphase _ outcome =>
      have hstatus : t.StatusIs m .committed := hm.status (by rw [hphase]; rfl)
      cases outcome with
      | success => exact endRound_fits hlive hstatus rfl
      | failure reason => exact endRound_fits hlive hstatus rfl
  | judged hphase _ r =>
      have hstatus : t.StatusIs m .approved := hm.status (by rw [hphase]; rfl)
      cases hverified : r.verified with
      | true => exact endRound_fits hlive hstatus rfl
      | false => exact endRound_fits hlive hstatus rfl
  | fellAsleep hphase _ =>
      refine ⟨⟨fun hs => ?_, fun hp => ?_⟩, fun _ _ _ _ _ h => by cases h⟩
      · cases hs
        exact hm.status (by rw [hphase]; rfl)
      · simp only [Monitor.phase_goTo, reduceCtorEq, MonitorPhase.sleeping.injEq, false_or] at hp
        exact hp ▸ hm.counted (.inl hphase)
  | awoke hphase _ _ =>
      exact poll_fits (hm.status (by rw [hphase]; rfl)) (hm.counted (.inr hphase))
  | gaveUp _ haborted _ => exact absurd haborted (by simp [hlive])

/-! ### All monitors that watch -/

/-- Every monitor that watches its submission is in step. -/
structure AllInStep (t : Tracker) : Prop where
  sound : t.Sound
  inStep : ∀ {id m}, t.Watches id m → t.InStep m

lemma AllInStep.empty (settings : TrackerSettings) (store : SubmissionStore) :
    (Tracker.empty settings store).AllInStep :=
  ⟨.empty settings store, fun h => by cases h.found⟩

/-- What others write does not concern a monitor that watches its submission. -/
lemma AllInStep.statusIs_of_kept (ht : t.AllInStep) (h : t.act x = some t') (hm : t.Watches id m)
    (hother : ∀ event, x ≠ .step id event) {status : SubmissionStatus}
    (hstatus : t.StatusIs m status) : t'.StatusIs m status := by
  intro ss' hss'
  by_cases heq : t'.store.contents m.account = t.store.contents m.account
  · exact hstatus (heq ▸ hss')
  · rcases act_contents h m.account with hsame | ⟨haccount, ss, ss₁, hss, hss₁, hw⟩
    · exact absurd hsame heq
    · rw [hss', Except.ok.injEq] at hss₁
      subst hss₁
      cases hw with
      | added _ => exact statusIn_append_of_some (hstatus hss) _
      | @moved j e n pre post s next hn hash _ _ =>
          obtain ⟨n', hn'⟩ := watches_of_contents_ne h heq
          obtain rfl : n = n' := Option.some.inj (hn.symm.trans hn'.found)
          have hne : n.hash ≠ m.hash := by
            -- else the two would watch one submission
            intro hhash
            rw [accountOf, hn, Option.map_some, Option.some.injEq] at haccount
            have hkey : n.key = m.key := by rw [Monitor.key, Monitor.key, haccount, hhash]
            obtain rfl := ht.sound.watches_unique hn' hm hkey
            exact hother e rfl
          rw [statusIn_of_moved (hash ▸ hne)]
          exact hstatus hss

/-- Whatever happens keeps the monitors in step. -/
theorem AllInStep.act (ht : t.AllInStep) (h : t.act x = some t') : t'.AllInStep := by
  refine ⟨ht.sound.act h, fun {id m} hm => ?_⟩
  have hfollows := ht.sound.act_follows h
  cases act_becomes h hm.found with
  | kept hfound hother =>
      have hwatches : t.Watches id m := ⟨hfound, hm.running, hfollows.live hm.live⟩
      have hin := ht.inStep hwatches
      exact ⟨fun hs => ht.statusIs_of_kept h hwatches hother (hin.status hs), hin.counted⟩
  | started _ _ _ _ _ =>
      exact ⟨fun hs => (by cases hs), fun hp => by simp [Monitor.fresh] at hp⟩
  | turned _ _ =>
      obtain ⟨n, t₁, n', hn, hturn, rfl⟩ := step_cases h
      have hfound := hm.found
      rw [get?_place_monitors, if_pos rfl, Option.some.injEq] at hfound
      subst hfound
      have hlive : t.scopes.isAborted n.signal = false :=
        hturn.same.signal ▸ hfollows.live hm.live
      have hin := (hturn.fits hlive (ht.inStep ⟨hn, hturn.isRunning, hlive⟩)).inStep
      exact ⟨hin.status, hin.counted⟩
  | killed _ _ => cases hm.running

/-- The monitors stay in step over a run. -/
theorem run_allInStep {xs : List TrackerAction} (h : t.run xs = some t') (ht : t.AllInStep) :
    t'.AllInStep :=
  run_induction (P := AllInStep) (fun _ hact hin => hin.act hact) h ht

/-- Every monitor that watches its submission is in step, and no hash occurs twice. -/
structure Steady (t : Tracker) : Prop extends t.AllInStep where
  distinct : t.store.AllDistinct

lemma Steady.empty {settings : TrackerSettings} {store : SubmissionStore} (hstore : store.AllDistinct) :
    (Tracker.empty settings store).Steady :=
  ⟨.empty settings store, hstore⟩

theorem Steady.act (ht : t.Steady) (h : t.act x = some t') : t'.Steady :=
  ⟨ht.toAllInStep.act h, act_distinct h ht.distinct⟩

theorem run_steady {xs : List TrackerAction} (h : t.run xs = some t') (ht : t.Steady) : t'.Steady :=
  ⟨run_allInStep h ht.toAllInStep, run_distinct h ht.distinct⟩

end Tracker

end ChainElection
