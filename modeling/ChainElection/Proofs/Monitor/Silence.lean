import Mathlib.Tactic
import ChainElection.Proofs.Monitor.Steps

/-!
Silence: a monitor without a budget polls, and is told nothing.

* `Tracker.silence` are the turns in which this happens a number of times: the
  monitor falls asleep and wakes up again.
* `Tracker.AwaitsPoll` says that a monitor waits for the answer to a poll,
  `Tracker.AsideFrom` that nothing but one monitor has changed, and
  `Tracker.Naps` what happens once.
* `AwaitsPoll.run_silence`: as long as its polls fit their word, the monitor
  polls on. `AwaitsPoll.run_overrun`: it breaks down when they do not any more.
-/

namespace ChainElection.Tracker

variable {t t' t'' : Tracker} {m m' : Monitor} {id k n : ℕ} {p : UInt32}

/-! ### One turn -/

/-- Without a budget the next poll is made, if it can be counted. -/
lemma poll_of_unlimited (hpolls : t.settings.maxPolls = none) (hroom : p.toNat ≠ Numeral.max32) :
    t.poll m p =
      { m with effort := { m.effort with polls := m.effort.polls + 1 } }.goTo (.polling (p + 1)) := by
  rw [poll, hpolls, Option.any_none, if_neg Bool.false_ne_true, if_neg hroom]

/-- Without a budget a monitor breaks down at the poll that cannot be counted. -/
lemma poll_of_full (hpolls : t.settings.maxPolls = none) (hfull : p.toNat = Numeral.max32) :
    t.poll m p = m.finish .brokeDown := by
  rw [poll, hpolls, Option.any_none, if_neg Bool.false_ne_true, if_pos hfull]

lemma toNat_succ (hroom : p.toNat ≠ Numeral.max32) : (p + 1).toNat = p.toNat + 1 := by
  have hlt := p.toNat_lt
  have hmax : Numeral.max32 = 4294967295 := rfl
  rw [UInt32.toNat_add]
  simp only [UInt32.reduceToNat]
  omega

/-- A monitor that is told nothing falls asleep. -/
lemma step_null (hm : t.monitors.get? id = some m) (hphase : m.phase = .polling p)
    (hlive : t.scopes.isAborted m.signal = false) :
    t.step id (.answered (.ok none)) = some (t.place id (m.goTo (.sleeping p))) := by
  simp [step, hm, turn, hphase, afterPoll, hlive]

/-- A monitor that wakes up goes for its next poll. -/
lemma step_awoken (hm : t.monitors.get? id = some m) (hphase : m.phase = .sleeping p)
    (hlive : t.scopes.isAborted m.signal = false) (failure : Option ClientError) :
    t.step id (.awoken failure) = some (t.place id (t.poll m p)) := by
  simp [step, hm, turn, hphase, afterSleep, hlive]

/-! ### Many turns -/

/-- The turns of a monitor that polls a number of times and is told nothing each time. -/
def silence (id : ℕ) : ℕ → List TrackerAction
  | 0 => []
  | n + 1 => .step id (.answered (.ok none)) :: .step id (.awoken none) :: silence id n

/-- Nothing but a monitor and the claims has changed. -/
structure AsideFrom (id : ℕ) (t t' : Tracker) : Prop where
  settings : t'.settings = t.settings
  scopes : t'.scopes = t.scopes
  store : t'.store = t.store
  updates : t'.updates = t.updates
  others : ∀ {i}, i ≠ id → t'.monitors.get? i = t.monitors.get? i

lemma AsideFrom.refl (id : ℕ) (t : Tracker) : AsideFrom id t t := ⟨rfl, rfl, rfl, rfl, fun _ => rfl⟩

lemma AsideFrom.trans (h : AsideFrom id t t') (h' : AsideFrom id t' t'') : AsideFrom id t t'' where
  settings := h'.settings.trans h.settings
  scopes := h'.scopes.trans h.scopes
  store := h'.store.trans h.store
  updates := h'.updates.trans h.updates
  others := fun hi => (h'.others hi).trans (h.others hi)

lemma asideFrom_place (t : Tracker) (id : ℕ) (m : Monitor) : AsideFrom id t (t.place id m) where
  settings := rfl
  scopes := rfl
  store := rfl
  updates := rfl
  others := fun hi => by rw [get?_place_monitors, if_neg hi.symm]

/-- A monitor without a budget waits under a live signal for the answer to its poll of the given number. -/
structure AwaitsPoll (t : Tracker) (id : ℕ) (m : Monitor) (k : ℕ) : Prop where
  found : t.monitors.get? id = some m
  phase : ∃ p : UInt32, m.phase = .polling p ∧ p.toNat = k
  live : t.scopes.isAborted m.signal = false
  unlimited : t.settings.maxPolls = none

/-- In two turns a monitor that waits for an answer is told nothing, and wakes up again. -/
structure Naps (t : Tracker) (id : ℕ) (m : Monitor) (t' : Tracker) : Prop where
  acts : ∃ t₁ p, t.act (.step id (.answered (.ok none))) = some t₁ ∧
    t₁.monitors.get? id = some (m.goTo (.sleeping p)) ∧ t₁.act (.step id (.awoken none)) = some t'
  aside : AsideFrom id t t'

lemma Naps.run_silence (h : t.Naps id m t') (n : ℕ) : t.run (silence id (n + 1)) = t'.run (silence id n) := by
  obtain ⟨t₁, p, hasleep, -, hawake⟩ := h.acts
  rw [silence, run, hasleep, Option.bind_some, run, hawake, Option.bind_some]

/-- A monitor that is told nothing goes for its next poll. -/
lemma AwaitsPoll.exists_naps (h : t.AwaitsPoll id m k) : ∃ (p : UInt32) (t' : Tracker), p.toNat = k ∧
    t.Naps id m t' ∧ t'.monitors.get? id = some (t.poll (m.goTo (.sleeping p)) p) := by
  obtain ⟨p, hphase, hp⟩ := h.phase
  let m₁ := m.goTo (.sleeping p)
  let t₁ := t.place id m₁
  have hasleep : t.step id (.answered (.ok none)) = some t₁ := step_null h.found hphase h.live
  have hfound : t₁.monitors.get? id = some m₁ := get?_place_self ..
  have hawake : t₁.step id (.awoken none) = some (t₁.place id (t₁.poll m₁ p)) :=
    step_awoken hfound rfl h.live none
  exact ⟨p, _, hp, ⟨⟨t₁, p, hasleep, hfound, hawake⟩,
    (asideFrom_place t id m₁).trans (asideFrom_place t₁ id _)⟩, get?_place_self ..⟩

/-- A monitor whose next poll can be counted makes it. -/
lemma AwaitsPoll.exists_next (h : t.AwaitsPoll id m k) (hroom : k < Numeral.max32) :
    ∃ t' m', t.Naps id m t' ∧ m.Same m' ∧ m'.effort.polls = m.effort.polls + 1 ∧
      t'.AwaitsPoll id m' (k + 1) := by
  obtain ⟨p, t', rfl, hnaps, hm'⟩ := h.exists_naps
  have hfits : p.toNat ≠ Numeral.max32 := hroom.ne
  rw [poll_of_unlimited h.unlimited hfits] at hm'
  refine ⟨t', _, hnaps, ?_, ?_, hm', ⟨p + 1, rfl, toNat_succ hfits⟩, ?_, ?_⟩
  · exact ⟨rfl, rfl, rfl, rfl⟩
  · rfl
  · rw [hnaps.aside.scopes]
    exact h.live
  · rw [hnaps.aside.settings, h.unlimited]

/-- As long as its polls fit their word, a monitor that is told nothing polls on. -/
theorem AwaitsPoll.run_silence (h : t.AwaitsPoll id m k) (hroom : k + n ≤ Numeral.max32) :
    ∃ t' m', t.run (silence id n) = some t' ∧ AsideFrom id t t' ∧ m.Same m' ∧
      m'.effort.polls = m.effort.polls + n ∧ t'.AwaitsPoll id m' (k + n) := by
  induction n generalizing t m k with
  | zero => exact ⟨t, m, rfl, .refl id t, .refl m, rfl, h⟩
  | succ n ih =>
      obtain ⟨t₁, m₁, hnaps, hsame₁, hpolls₁, h₁⟩ := h.exists_next (by omega)
      obtain ⟨t', m', hrun, haside, hsame, hpolls, h'⟩ := ih h₁ (by omega)
      refine ⟨t', m', (hnaps.run_silence n).trans hrun, hnaps.aside.trans haside, hsame₁.trans hsame,
        by omega, ?_⟩
      rwa [Nat.add_right_comm, Nat.add_assoc] at h'

/-- Told nothing once more than its polls fit their word, a monitor has broken down. -/
theorem AwaitsPoll.run_overrun (h : t.AwaitsPoll id m k) (hfull : k + n = Numeral.max32 + 1) :
    ∃ t' m', t.run (silence id n) = some t' ∧ AsideFrom id t t' ∧ t'.monitors.get? id = some m' ∧
      m.Same m' ∧ m'.phase = .ended .brokeDown ∧ m'.effort.polls + 1 = m.effort.polls + n := by
  induction n generalizing t m k with
  | zero =>
      obtain ⟨p, -, rfl⟩ := h.phase
      have hlt := p.toNat_lt
      have hmax : Numeral.max32 = 4294967295 := rfl
      omega
  | succ n ih =>
      by_cases hlast : k = Numeral.max32
      · obtain rfl : n = 0 := by omega
        obtain ⟨p, t', hp, hnaps, hm'⟩ := h.exists_naps
        rw [poll_of_full h.unlimited (hp.trans hlast)] at hm'
        exact ⟨t', _, hnaps.run_silence 0, hnaps.aside, hm', ⟨rfl, rfl, rfl, rfl⟩, rfl, rfl⟩
      · obtain ⟨t₁, m₁, hnaps, hsame₁, hpolls₁, h₁⟩ := h.exists_next (by omega)
        obtain ⟨t', m', hrun, haside, hm', hsame, hphase, hpolls⟩ := ih h₁ (by omega)
        exact ⟨t', m', (hnaps.run_silence n).trans hrun, hnaps.aside.trans haside, hm',
          hsame₁.trans hsame, hphase, by omega⟩

end ChainElection.Tracker
