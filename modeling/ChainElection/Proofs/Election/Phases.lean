import Mathlib.Tactic
import ChainElection.Client.Submitter
import ChainElection.Proofs.Time.Count

/-!
The phases of an election in the course of time.

The contract counts milliseconds, a clock is finer and goes back further. Nothing
is lost by cutting an instant down to its millisecond, because bounds are whole
milliseconds.

* `Moment.HasCome` compares a bound with an instant exactly, also a bound that
  lies behind the end of the calendar. `Moment.hasCome_iff`: this is what
  comparing the milliseconds comes to, from 1970 on.
* `ElectionConfig.rank_phaseAt_mono`: no phase comes back, whatever the order of
  the bounds.
* `phases_follow_the_window` puts together what a phase says about an instant.
-/

namespace ChainElection

namespace Moment

variable {m : Moment} {t u : Instant}

/-! ### Moments and instants -/

/-- The moment has come by the instant. -/
def HasCome (m : Moment) (t : Instant) : Prop := (m.millis.toNat : ℤ) * 1000000 ≤ t.nanoseconds

instance (m : Moment) (t : Instant) : Decidable (m.HasCome t) := inferInstanceAs (Decidable (_ ≤ _))

lemma ext_toNat {m n : Moment} (h : m.millis.toNat = n.millis.toNat) : m = n := by
  cases m
  cases n
  rw [Moment.mk.injEq]
  exact UInt64.toNat_inj.mp h

/-- No instant of the calendar is too late to be counted in eight bytes. -/
lemma milliseconds_lt (t : Instant) : t.milliseconds < 2 ^ 64 := by
  have hlast : Calendar.daysBeforeYear (Calendar.lastYear + 1) = 95745765 := by decide
  have hday := t.date.dayNumber_mem.2
  have hhour := t.hour_lt
  have hminute := t.minute_lt
  have hsecond := t.second_lt
  have hnano := t.nano_lt
  rw [hlast, Calendar.daysBefore1970] at hday
  rw [Instant.milliseconds]
  omega

/-- An instant is cut down to its millisecond, and what lies before 1970 counts as the start. -/
lemma toNat_ofInstant (t : Instant) : (ofInstant t).millis.toNat = (t.nanoseconds / 1000000).toNat := by
  have hlt := milliseconds_lt t
  rw [← t.milliseconds_eq, ofInstant]
  exact UInt64.toNat_ofNat_of_lt' (by
    have hsize : UInt64.size = 2 ^ 64 := rfl
    omega)

/-- From 1970 on it makes no difference for a moment if an instant is cut down to its millisecond. -/
lemma hasCome_iff (ht : 0 ≤ t.nanoseconds) : m.HasCome t ↔ ¬ (ofInstant t).millis < m.millis := by
  rw [UInt64.lt_iff_toNat_lt, toNat_ofInstant, HasCome]
  omega

/-- Moments are in the order of their instants. -/
lemma ofInstant_mono (h : t.nanoseconds ≤ u.nanoseconds) :
    (ofInstant t).millis.toNat ≤ (ofInstant u).millis.toNat := by
  rw [toNat_ofInstant, toNat_ofInstant]
  omega

lemma ofInstant_of_neg (ht : t.nanoseconds < 0) : ofInstant t = ⟨0⟩ := by
  refine ext_toNat ?_
  rw [toNat_ofInstant]
  show _ = 0
  omega

/-- The instant of a moment is exactly where the moment says, and its moment is this one again. -/
lemma of_toInstant? (h : m.toInstant? = some t) :
    t.nanoseconds = (m.millis.toNat : ℤ) * 1000000 ∧ ¬ t.IsLeap ∧ ofInstant t = m := by
  obtain ⟨hcount, hleap⟩ := Instant.of_ofMilliseconds? h
  refine ⟨hcount, hleap, ext_toNat ?_⟩
  rw [toNat_ofInstant, hcount]
  omega

/-- The last millisecond that the calendar has. -/
def lastMillis : ℕ := 8210266876799999

lemma exists_toInstant?_iff : (∃ t, m.toInstant? = some t) ↔ m.millis.toNat ≤ lastMillis := by
  have hfirst : Calendar.daysBeforeYear Calendar.firstYear = -95745764 := by decide
  have hlast : Calendar.daysBeforeYear (Calendar.lastYear + 1) = 95745765 := by decide
  have hrange := Instant.exists_ofMilliseconds?_iff m.millis.toNat
  rw [hfirst, hlast, Calendar.daysBefore1970] at hrange
  rw [toInstant?.eq_def, hrange, lastMillis]
  omega

end Moment

namespace ElectionConfig

variable {c : ElectionConfig} {m n : Moment} {t : Instant}

/-! ### Phases -/

/-- No phase comes back, whatever the order of the bounds. -/
lemma rank_phaseAt_mono (h : m.millis.toNat ≤ n.millis.toNat) :
    (c.phaseAt m).rank ≤ (c.phaseAt n).rank := by
  rw [phaseAt, phaseAt]
  simp only [UInt64.lt_iff_toNat_lt]
  split_ifs <;> simp only [Phase.rank] <;> omega

/-- From 1970 on, the phase depends on which of the bounds have come. -/
lemma phase_eq (ht : 0 ≤ t.nanoseconds) : c.phase t =
    if ¬ c.start.HasCome t then .setup
    else if ¬ c.finish.HasCome t then .voting
    else if ¬ c.deadline.HasCome t then .tally
    else .finished := by
  rw [phase, phaseAt]
  simp only [Moment.hasCome_iff ht, not_not]

/-- A ballot is refused for its time if the election is in another phase than that of voting. -/
lemma admit_eq_closed_iff {b : Ballot} :
    (∃ p, c.admit t b = .error (.electionClosed p)) ↔ c.phase t ≠ .voting := by
  unfold ElectionConfig.admit
  split_ifs <;> simp_all

end ElectionConfig

/-- Outside leap seconds, an election never goes back to a phase that it has left, also if its bounds are
in no order. From 1970 on its phase is decided by the bounds that have come by then, to the nanosecond: it
is in setup until its start, ballots are accepted from the start until the end and at no other time, it is
tallied from then until the deadline, and finished once all three have passed. Instants before 1970 count
as the start of 1970. A moment that the calendar has is an instant, which counts as this moment again, and
it has come just from this instant on. -/
theorem phases_follow_the_window (c : ElectionConfig) :
    (∀ t u : Instant, ¬ t.IsLeap → ¬ u.IsLeap → t ≤ u → (c.phase t).rank ≤ (c.phase u).rank) ∧
    (∀ t : Instant, ¬ t.IsLeap → .epoch ≤ t →
      (c.phase t = .setup ↔ ¬ c.start.HasCome t) ∧
      (c.phase t = .voting ↔ c.start.HasCome t ∧ ¬ c.finish.HasCome t) ∧
      (c.phase t = .tally ↔ c.start.HasCome t ∧ c.finish.HasCome t ∧ ¬ c.deadline.HasCome t) ∧
      (c.phase t = .finished ↔ c.start.HasCome t ∧ c.finish.HasCome t ∧ c.deadline.HasCome t) ∧
      ∀ b, (∃ p, c.admit t b = .error (.electionClosed p)) ↔
        ¬ (c.start.HasCome t ∧ ¬ c.finish.HasCome t)) ∧
    (∀ t : Instant, ¬ t.IsLeap → t < .epoch → Moment.ofInstant t = ⟨0⟩ ∧ c.phase t = c.phase .epoch) ∧
    (∀ (m : Moment) i, m.toInstant? = some i → Moment.ofInstant i = m ∧
      ∀ t : Instant, ¬ t.IsLeap → (m.HasCome t ↔ i ≤ t)) ∧
    (∀ m : Moment, (∃ i, m.toInstant? = some i) ↔ m.millis.toNat ≤ Moment.lastMillis) ∧
    ∀ t u : Instant, ¬ t.IsLeap → ¬ u.IsLeap → (t ≤ u ↔ t.nanoseconds ≤ u.nanoseconds) := by
  have hepoch := Instant.not_isLeap_epoch
  refine ⟨fun t u ht hu hle => ?_, fun t ht hle => ?_, fun t ht hlt => ?_, fun m i hi => ?_,
    fun m => Moment.exists_toInstant?_iff, fun t u => Instant.le_iff⟩
  · exact ElectionConfig.rank_phaseAt_mono (Moment.ofInstant_mono ((Instant.le_iff ht hu).mp hle))
  · rw [Instant.le_iff hepoch ht, Instant.nanoseconds_epoch] at hle
    have hvoting : c.phase t = .voting ↔ c.start.HasCome t ∧ ¬ c.finish.HasCome t := by
      rw [ElectionConfig.phase_eq hle]
      split_ifs <;> simp_all
    refine ⟨?_, hvoting, ?_, ?_, fun b => by rw [ElectionConfig.admit_eq_closed_iff, ne_eq, hvoting]⟩ <;>
      rw [ElectionConfig.phase_eq hle] <;> split_ifs <;> simp_all
  · rw [Instant.lt_iff ht hepoch, Instant.nanoseconds_epoch] at hlt
    have hzero := Moment.ofInstant_of_neg hlt
    refine ⟨hzero, ?_⟩
    rw [ElectionConfig.phase, hzero]
    rfl
  · obtain ⟨hcount, hleap, hback⟩ := Moment.of_toInstant? hi
    refine ⟨hback, fun t ht => ?_⟩
    rw [Instant.le_iff hleap ht, hcount, Moment.HasCome]

/-- An election whose deadline lies before its end is never tallied. A nanosecond before the start ballots
are not yet accepted, though the millisecond is almost over. -/
theorem phases_follow_the_window_of_early_deadline :
    let c : ElectionConfig := { (default : ElectionConfig) with
      start := ⟨10000⟩, finish := ⟨20000⟩, deadline := ⟨15000⟩ }
    let ancient : Instant := ⟨⟨1969, 12, 31, by decide, by decide⟩, 23, 59, 59, 999999999,
      by decide, by decide, by decide, by decide⟩
    let early : Instant := ⟨.epoch, 0, 0, 9, 999999999,
      by decide, by decide, by decide, by decide⟩
    let opening : Instant := ⟨.epoch, 0, 0, 10, 0,
      by decide, by decide, by decide, by decide⟩
    let closing : Instant := ⟨.epoch, 0, 0, 20, 0,
      by decide, by decide, by decide, by decide⟩
    c.phase ancient = c.phase .epoch ∧ c.phase early = .setup ∧ c.phase opening = .voting ∧
      c.phase closing = .finished ∧ (c.phase early).rank ≤ (c.phase opening).rank ∧
      Moment.ofInstant opening = ⟨10000⟩ ∧ ∃ i, (⟨10000⟩ : Moment).toInstant? = some i ∧ i ≤ opening := by
  intro c ancient early opening closing
  obtain ⟨hmono, hphases, hbefore, hread, hrange, -⟩ := phases_follow_the_window c
  obtain ⟨hsetup, -⟩ := hphases early (by decide) (by decide)
  obtain ⟨-, hvoting, -⟩ := hphases opening (by decide) (by decide)
  obtain ⟨-, -, -, hfinished, -⟩ := hphases closing (by decide) (by decide)
  have hcome : (⟨10000⟩ : Moment).HasCome opening := by decide
  obtain ⟨i, hi⟩ := (hrange ⟨10000⟩).mpr (by decide)
  have hle : i ≤ opening := ((hread _ i hi).2 opening (by decide)).mp hcome
  exact ⟨(hbefore ancient (by decide) (by decide)).2, hsetup.mpr (by decide), hvoting.mpr (by decide),
    hfinished.mpr (by decide), hmono early opening (by decide) (by decide) (by decide), by decide, i, hi,
    hle⟩

end ChainElection
