import Mathlib.Tactic
import ChainElection.Proofs.Monitor.Claims
import ChainElection.Proofs.Monitor.Silence

/-!
Abortion: what becomes of monitors once the last guard of their scope is gone.

* `Monitor.Retires` is all that can still become of such a monitor: it ends
  without having written, announced or begun to wait for anything, and may have
  made one more poll if it was asleep. `Turns.retires`: every turn under an
  aborted signal is of that kind, and fails only with a failure that it met, or
  at a poll that cannot be counted any more.
* `exists_turn`: such a monitor can always be let go on.
* `Sound.act_retires`, `run_retires`: what this means over time; no monitor is
  started under an aborted signal.
* `last_release_stops_monitors` puts all of this together;
  `full_sleeper_breaks_down` is a monitor that ends with no result at all.
-/

namespace ChainElection

/-- What goes wrong in what a monitor was waiting for, and who is to blame. -/
def MonitorEvent.failure : MonitorEvent → Option (Culprit × ClientError)
  | .finalized (.error e) => some (.node, e)
  | .answered (.error e) => some (.verifier, e)
  | .awoken failure => failure.map fun e => (.verifier, e)
  | _ => none

/-- The monitor ends without having written, announced or begun to wait for anything. It may have polled
once more if it was asleep. -/
structure Monitor.Retires (m m' : Monitor) : Prop where
  same : m.Same m'
  waits : m'.effort.waits = m.effort.waits
  writes : m'.effort.writes = m.effort.writes
  polls : m'.effort.polls = m.effort.polls ∨
    m'.effort.polls = m.effort.polls + 1 ∧ ∃ polls, m.phase = .sleeping polls
  wasRunning : m.isRunning = true
  ended : m'.isRunning = false

lemma Monitor.retires_finish {m : Monitor} (hrunning : m.isRunning = true) (how : MonitorEnd) :
    m.Retires (m.finish how) :=
  ⟨m.same_finish how, rfl, rfl, .inl rfl, hrunning, rfl⟩

namespace Tracker

variable {t t' : Tracker} {m m' : Monitor} {event : MonitorEvent} {id σ : ℕ} {x : TrackerAction}

/-! ### One turn -/

/-- How a monitor ends that goes on under an aborted signal: well, or with the failure that it met. If it
was asleep after as many polls as its word can count, it breaks down at the next. -/
def EndsBy (event : MonitorEvent) (m : Monitor) (how : MonitorEnd) : Prop :=
  how.result = some (.ok ()) ∨
  (∃ culprit e, event.failure = some (culprit, e) ∧ how = .failed culprit e) ∨
  how = .brokeDown ∧ ∃ polls, m.phase = .sleeping polls ∧ polls.toNat = Numeral.max32

lemma beginRound_of_isAborted (hab : t.scopes.isAborted m.signal = true) :
    t.beginRound m =
      { m with effort := { m.effort with rounds := m.effort.rounds + 1 } }.finish .aborted := by
  simp [beginRound, hab]

/-- A poll that is given up ends the monitor, whether or not it was still made. -/
lemma abandonPoll_poll {polls : UInt32} (hphase : m.phase = .sleeping polls)
    (failure : Option ClientError) :
    m.Retires ((t.poll m polls).abandonPoll failure) ∧
      ∃ how, ((t.poll m polls).abandonPoll failure).phase = .ended how ∧
        EndsBy (.awoken failure) m how := by
  have hrunning : m.isRunning = true := by rw [Monitor.isRunning, hphase]
  rcases poll_cases t m polls with ⟨h, -⟩ | ⟨h, -, hfull⟩ | ⟨h, -⟩ <;> rw [h]
  · exact ⟨m.retires_finish hrunning _, .outOfPolls, rfl, .inl rfl⟩
  · exact ⟨m.retires_finish hrunning _, .brokeDown, rfl, .inr (.inr ⟨rfl, polls, hphase, hfull⟩)⟩
  · cases failure with
    | none =>
        exact ⟨⟨⟨rfl, rfl, rfl, rfl⟩, rfl, rfl, .inr ⟨rfl, polls, hphase⟩, hrunning, rfl⟩,
          .aborted, rfl, .inl rfl⟩
    | some e =>
        exact ⟨⟨⟨rfl, rfl, rfl, rfl⟩, rfl, rfl, .inr ⟨rfl, polls, hphase⟩, hrunning, rfl⟩,
          .failed .verifier e, rfl, .inr (.inl ⟨.verifier, e, rfl, rfl⟩)⟩

/-- Under an aborted signal a monitor ends with its next turn and leaves the tracker alone. -/
lemma Turns.retires (h : Turns t m event t' m') (hab : t.scopes.isAborted m.signal = true) :
    t' = t ∧ m.Retires m' ∧ ∃ how, m'.phase = .ended how ∧ EndsBy event m how := by
  have hrunning := h.isRunning
  have hno : t.scopes.isAborted m.signal ≠ false := by simp [hab]
  cases h with
  | started _ =>
      rw [beginRound_of_isAborted hab]
      exact ⟨rfl, ⟨⟨rfl, rfl, rfl, rfl⟩, rfl, rfl, .inl rfl, hrunning, rfl⟩, .aborted, rfl, .inl rfl⟩
  | nodeFailed _ e =>
      exact ⟨rfl, m.retires_finish hrunning _, _, rfl, .inr (.inl ⟨.node, e, rfl, rfl⟩)⟩
  | verifierFailed _ e =>
      exact ⟨rfl, m.retires_finish hrunning _, _, rfl, .inr (.inl ⟨.verifier, e, rfl, rfl⟩)⟩
  | stopped _ _ => exact ⟨rfl, m.retires_finish hrunning _, _, rfl, .inl rfl⟩
  | gaveUp hphase _ failure => exact ⟨rfl, abandonPoll_poll hphase failure⟩
  | finalized _ hlive _ => exact absurd hlive hno
  | judged _ hlive _ => exact absurd hlive hno
  | fellAsleep _ hlive => exact absurd hlive hno
  | awoke _ hlive _ => exact absurd hlive hno

/-- A running monitor of an aborted signal can always be let go on. -/
lemma exists_turn (hrunning : m.isRunning = true) (hab : t.scopes.isAborted m.signal = true) :
    ∃ event t' m', t.turn m event = some (t', m') := by
  cases hphase : m.phase with
  | ready => exact ⟨.start, t, t.beginRound m, by simp [turn, hphase]⟩
  | ended how =>
      rw [Monitor.isRunning, hphase] at hrunning
      cases hrunning
  | awaitingFinality =>
      exact ⟨.aborted, t, m.finish .aborted, by simp [turn, hphase, Monitor.isWaiting, hab]⟩
  | polling polls =>
      exact ⟨.aborted, t, m.finish .aborted, by simp [turn, hphase, Monitor.isWaiting, hab]⟩
  | sleeping polls =>
      exact ⟨.aborted, t, m.finish .aborted, by simp [turn, hphase, Monitor.isWaiting, hab]⟩

/-! ### Over time -/

/-- Every monitor of the signal was there in the first tracker, and it has not gone on since, or it has
retired. -/
def Retired (σ : ℕ) (t₀ t : Tracker) : Prop :=
  ∀ {id m}, t.monitors.get? id = some m → m.signal = σ →
    ∃ m₀, t₀.monitors.get? id = some m₀ ∧ (m = m₀ ∨ m₀.Retires m)

/-- A monitor is never started under an aborted signal, and one that is there retires. -/
lemma Sound.act_retires (ht : t.Sound) (hab : t.scopes.isAborted σ = true) {t₀ : Tracker}
    (h : t.act x = some t') (hretired : Retired σ t₀ t) : Retired σ t₀ t' := by
  intro id m hm hσ
  cases act_becomes h hm with
  | kept hm _ => exact hretired hm hσ
  | started hg _ hid hash c =>
      obtain ⟨e, he, hsig⟩ := ht.scopes.scope_of_guard hg
      have hlive := ht.scopes.live he
      have hσ' : e.signal = σ := hsig.trans hσ
      rw [hσ', hab] at hlive
      cases hlive
  | @turned event t₁ n _ hn hturn =>
      have hsignal : n.signal = σ := hturn.same.signal.symm.trans hσ
      obtain ⟨m₀, hm₀, rfl | hm₀n⟩ := hretired hn hsignal
      · exact ⟨n, hm₀, .inr (hturn.retires (hsignal ▸ hab)).2.1⟩
      · exact absurd hturn.isRunning (by simp [hm₀n.ended])
  | @killed n hn hrunning =>
      obtain ⟨m₀, hm₀, rfl | hm₀n⟩ := hretired hn hσ
      · exact ⟨n, hm₀, .inr (n.retires_finish hrunning _)⟩
      · exact absurd hrunning (by simp [hm₀n.ended])

/-- Over a run no monitor is started under a signal that is aborted, and those that are there retire. -/
theorem run_retires {xs : List TrackerAction} (ht : t.Sound) (hab : t.scopes.isAborted σ = true)
    (h : t.run xs = some t') :
    t'.Sound ∧ t'.scopes.isAborted σ = true ∧ Retired σ t t' := by
  have hstart : t.Sound ∧ t.scopes.isAborted σ = true ∧ Retired σ t t :=
    ⟨ht, hab, fun hm _ => ⟨_, hm, .inl rfl⟩⟩
  refine run_induction (P := fun u => u.Sound ∧ u.scopes.isAborted σ = true ∧ Retired σ t u)
    (fun _ hact hu => ?_) h hstart
  obtain ⟨hsound, haborted, hretired⟩ := hu
  exact ⟨hsound.act hact, (hsound.act_follows hact).aborted haborted,
    hsound.act_retires haborted hact hretired⟩

/-- At every later time, a monitor of an aborted signal has not gone on yet or has retired. -/
lemma Sound.retires_of_reaches (ht : t.Sound) (h : t.Reaches t')
    (hm : t.monitors.get? id = some m) (hab : t.scopes.isAborted m.signal = true) :
    t'.scopes.isAborted m.signal = true ∧
      ∃ m', t'.monitors.get? id = some m' ∧ (m' = m ∨ m.Retires m') := by
  obtain ⟨m', hm', hsame⟩ := ht.exists_same_of_reaches h hm
  obtain ⟨xs, hxs⟩ := h
  obtain ⟨-, haborted, hretired⟩ := run_retires ht hab hxs
  obtain ⟨m₀, hm₀, hm'₀⟩ := hretired hm' hsame.signal
  obtain rfl : m = m₀ := Option.some.inj (hm.symm.trans hm₀)
  exact ⟨haborted, m', hm', hm'₀⟩

/-- A monitor that watches at a later time watched before, if it was there. -/
lemma Sound.watches_of_reaches (ht : t.Sound) (h : t.Reaches t') (hm : t.monitors.get? id = some m)
    (hw : t'.Watches id m) : t.Watches id m := by
  refine ⟨hm, hw.running, ?_⟩
  by_contra haborted
  rw [Bool.not_eq_false] at haborted
  have hlater := (ht.retires_of_reaches h hm haborted).1
  rw [hw.live] at hlater
  cases hlater

/-- A step of a monitor of an aborted signal ends it and writes nothing. -/
lemma step_retires (hm : t.monitors.get? id = some m) (hab : t.scopes.isAborted m.signal = true)
    (h : t.step id event = some t') :
    t'.store = t.store ∧ t'.updates = t.updates ∧
      ∃ m', t'.monitors.get? id = some m' ∧ m.Retires m' := by
  obtain ⟨t₁, m', hturn, rfl⟩ := turns_of_step hm h
  obtain ⟨rfl, hretires, -⟩ := hturn.retires hab
  exact ⟨rfl, rfl, m', by rw [get?_place_monitors, if_pos rfl], hretires⟩

/-- A step that changes a list is made by a monitor that watches its submission. -/
lemma watches_of_contents_ne (h : t.step id event = some t') {a : Account}
    (hne : t'.store.contents a ≠ t.store.contents a) : ∃ m, t.Watches id m := by
  obtain ⟨m, t₁, m', hm, hturn, rfl⟩ := step_cases h
  refine ⟨m, hm, hturn.isRunning, ?_⟩
  by_contra hab
  rw [Bool.not_eq_false] at hab
  exact hne (by rw [← (hturn.retires hab).1]; rfl)

/-- Once the last guard of a scope is released, its monitors are those that were there, and each of them
either has not gone on yet or has ended with its first turn, without having written, announced or begun
to wait for anything. Whatever one of them goes on with, it ends, well or with the failure that it met;
and it can always go on. The lists change only by `add` or by the step of a monitor of another signal
that is alive. -/
theorem last_release_stops_monitors {settings : TrackerSettings} {store : SubmissionStore}
    {xs ys : List TrackerAction} {t₀ : Tracker} {g : ℕ} {a : Account}
    (h₀ : (Tracker.empty settings store).run xs = some t₀)
    (hg : t₀.scopes.guards.get? g = some ⟨a, σ⟩) (hlast : t₀.scopes.guardsOf a = {g})
    (h : (t₀.release g).run ys = some t) :
    (∀ i m, t.monitors.get? i = some m → m.signal = σ →
      ∃ m₀, t₀.monitors.get? i = some m₀ ∧ (m = m₀ ∨ m₀.Retires m)) ∧
    (∀ i m e t', t.monitors.get? i = some m → m.signal = σ → t.step i e = some t' →
      t'.store = t.store ∧ t'.updates = t.updates ∧
      ∃ m' how, t'.monitors.get? i = some m' ∧ m.Retires m' ∧ m'.phase = .ended how ∧
        EndsBy e m how) ∧
    (∀ i m, t.monitors.get? i = some m → m.signal = σ → m.isRunning = true →
      ∃ e t', t.step i e = some t') ∧
    ∀ x t' b, t.act x = some t' → t'.store.contents b = t.store.contents b ∨
      (∃ g h now, x = .add g h now) ∨
      ∃ i e m, x = .step i e ∧ t.monitors.get? i = some m ∧ m.signal ≠ σ ∧
        t.scopes.isAborted m.signal = false := by
  have ht₀ := sound_of_run h₀
  have hab₀ : (t₀.release g).scopes.isAborted σ = true :=
    ht₀.scopes.isAborted_release_of_last hg hlast
  obtain ⟨-, hab, hretired⟩ := run_retires (ht₀.release g) hab₀ h
  refine ⟨fun i m hm hσ => hretired hm hσ, ?_, ?_, ?_⟩
  · intro i m e t' hm hσ hstep
    obtain ⟨t₁, m', hturn, rfl⟩ := turns_of_step hm hstep
    obtain ⟨rfl, hretires, how, hphase, hends⟩ := hturn.retires (hσ ▸ hab)
    exact ⟨rfl, rfl, m', how, by rw [get?_place_monitors, if_pos rfl], hretires, hphase, hends⟩
  · intro i m hm hσ hrunning
    obtain ⟨e, t₁, m', hturn⟩ := exists_turn hrunning (hσ ▸ hab)
    exact ⟨e, t₁.place i m', by rw [step, hm]; simp only [hturn, Option.map_some]⟩
  · intro x t' b hact
    by_cases heq : t'.store.contents b = t.store.contents b
    · exact .inl heq
    · right
      rcases act_contents hact b with hsame | ⟨-, ss, ss', -, -, hwritten⟩
      · exact absurd hsame heq
      · cases hwritten with
        | added _ => exact .inl ⟨_, _, _, rfl⟩
        | @moved i e m _ _ _ _ hm _ _ _ =>
            obtain ⟨n, hn⟩ := watches_of_contents_ne hact heq
            refine .inr ⟨i, e, n, rfl, hn.found, ?_, hn.live⟩
            rintro rfl
            exact absurd hn.live (by simp [hab])

/-- A sleeping monitor and one that has not begun are left when the guard goes; the first makes one more
poll, and a new scope takes both submissions over. -/
theorem last_release_stops_monitors_of_sleeper :
    ∃ t₀ t, (Tracker.empty ⟨10, none⟩ .ofLists).run
        [.acquire ⟨.replicate 1⟩, .add 0 ⟨.replicate 2⟩ .epoch, .step 0 .start,
          .step 0 (.finalized (.ok .success)), .step 0 (.answered (.ok none)),
          .add 0 ⟨.replicate 3⟩ .epoch] = some t₀ ∧
      (t₀.release 0).run [.acquire ⟨.replicate 1⟩, .init 1, .step 0 (.awoken none)] = some t ∧
      (t₀.monitors.get? 0).map (fun m => m.effort.polls) = some 1 ∧
      (t.monitors.get? 0).map (fun m => (m.phase, m.effort.polls)) = some (.ended .aborted, 2) ∧
      (t.monitors.get? 1).map Monitor.phase = some .ready ∧
      ∀ i m, t.monitors.get? i = some m → m.signal = 0 →
        ∃ m₀, t₀.monitors.get? i = some m₀ ∧ (m = m₀ ∨ m₀.Retires m) :=
  ⟨_, _, rfl, rfl, by decide, by decide, by decide,
    (@last_release_stops_monitors _ 0 ⟨10, none⟩ .ofLists
      [.acquire ⟨.replicate 1⟩, .add 0 ⟨.replicate 2⟩ .epoch, .step 0 .start,
        .step 0 (.finalized (.ok .success)), .step 0 (.answered (.ok none)),
        .add 0 ⟨.replicate 3⟩ .epoch]
      [.acquire ⟨.replicate 1⟩, .init 1, .step 0 (.awoken none)] _ 0 ⟨.replicate 1⟩
      rfl rfl (by decide) rfl).1⟩

/-- A monitor without a budget that has been told nothing as often as its word can count is asleep when the
guard goes. Nothing fails when it wakes up, and it ends with no result at all. -/
theorem full_sleeper_breaks_down :
    ∃ t₀ t m m', (Tracker.empty ⟨10, none⟩ .ofLists).run
        ([.acquire ⟨.replicate 1⟩, .add 0 ⟨.replicate 2⟩ .epoch, .step 0 .start,
            .step 0 (.finalized (.ok .success))] ++
          (silence 0 (Numeral.max32 - 1) ++ [.step 0 (.answered (.ok none))])) = some t₀ ∧
      t₀.scopes.guards.get? 0 = some ⟨⟨.replicate 1⟩, 0⟩ ∧ t₀.scopes.guardsOf ⟨.replicate 1⟩ = {0} ∧
      (t₀.release 0).monitors.get? 0 = some m ∧ m.signal = 0 ∧ m.isRunning = true ∧
      (MonitorEvent.awoken none).failure = none ∧ (t₀.release 0).step 0 (.awoken none) = some t ∧
      t.monitors.get? 0 = some m' ∧ m'.phase = .ended .brokeDown ∧ MonitorEnd.brokeDown.result = none := by
  obtain ⟨s, m, hs, hpolls, hguard, hguards, hsignal, haborts⟩ :
      ∃ s m, (Tracker.empty ⟨10, none⟩ .ofLists).run
          [.acquire ⟨.replicate 1⟩, .add 0 ⟨.replicate 2⟩ .epoch, .step 0 .start,
            .step 0 (.finalized (.ok .success))] = some s ∧
        s.AwaitsPoll 0 m 1 ∧ s.scopes.guards.get? 0 = some ⟨⟨.replicate 1⟩, 0⟩ ∧
        s.scopes.guardsOf ⟨.replicate 1⟩ = {0} ∧ m.signal = 0 ∧
        (s.scopes.release 0).isAborted 0 = true :=
    ⟨_, _, rfl, ⟨rfl, ⟨1, rfl, rfl⟩, by decide, rfl⟩, by decide, by decide, rfl, by decide⟩
  obtain ⟨t₁, m₁, hrun, haside, hsame, -, hpolls₁⟩ :=
    hpolls.run_silence (show 1 + (Numeral.max32 - 1) ≤ Numeral.max32 by decide)
  obtain ⟨p, hphase, hp⟩ := hpolls₁.phase
  have hfull : p.toNat = Numeral.max32 := hp
  have hasleep := step_null hpolls₁.found hphase hpolls₁.live
  let m₀ := m₁.goTo (.sleeping p)
  let t₀ := t₁.place 0 m₀
  have hscopes : t₀.scopes = s.scopes := haside.scopes
  have hfound : (t₀.release 0).monitors.get? 0 = some m₀ := get?_place_self ..
  have hsignal₀ : m₀.signal = 0 := hsame.signal.trans hsignal
  have haborted : (t₀.release 0).scopes.isAborted m₀.signal = true := by
    rw [release, hscopes, hsignal₀, haborts]
  have hpoll : (t₀.release 0).poll m₀ p = m₀.finish .brokeDown := poll_of_full hpolls₁.unlimited hfull
  have hwakes : (t₀.release 0).afterSleep m₀ p none = m₀.finish .brokeDown := by
    rw [afterSleep, if_pos haborted, hpoll]
    rfl
  have hphase₀ : m₀.phase = .sleeping p := rfl
  refine ⟨t₀, (t₀.release 0).place 0 (m₀.finish .brokeDown), m₀, m₀.finish .brokeDown, ?_, hscopes ▸ hguard,
    hscopes ▸ hguards, hfound, hsignal₀, rfl, rfl, ?_, get?_place_self .., rfl, rfl⟩
  · rw [run_append, hs, Option.bind_some, run_append, hrun, Option.bind_some, run, act, hasleep,
      Option.bind_some, run]
  · simp only [step, hfound, turn, hphase₀, hwakes, Option.map_some]

end Tracker

end ChainElection
