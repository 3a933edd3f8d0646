import Mathlib.Tactic
import Mathlib.Data.List.Lex
import ChainElection.Time.Instant
import ChainElection.Proofs.Time.Calendar

/-!
Instants, counted from the start of 1970.

* `Instant.nanoseconds` is the exact count. `Instant.milliseconds_eq`: the count of
  milliseconds is this one, rounded down.
* `Instant.lt_iff`, `Instant.le_iff`: outside leap seconds the exact count is in
  the order of time.
* `Instant.of_ofMilliseconds?`: the instant that is found for a number of
  milliseconds is exactly so far from the start of 1970;
  `Instant.exists_ofMilliseconds?_iff`: there is one as long as the calendar goes.
-/

namespace ChainElection.Instant

open Calendar

variable {t u : Instant}

/-- The instant lies in a leap second. -/
def IsLeap (t : Instant) : Prop := 1000000000 ≤ t.nano

instance (t : Instant) : Decidable t.IsLeap := inferInstanceAs (Decidable (_ ≤ _))

/-- The nanoseconds since the start of 1970; those of a leap second run on past the minute's end. -/
def nanoseconds (t : Instant) : ℤ :=
  (t.date.dayNumber * 86400 + (t.hour * 3600 + t.minute * 60 + t.second : ℕ)) * 1000000000 + t.nano

lemma milliseconds_eq (t : Instant) : t.milliseconds = t.nanoseconds / 1000000 := by
  rw [milliseconds, nanoseconds]
  omega

/-! ### The order of time -/

instance (t u : Instant) : Decidable (t ≤ u) := inferInstanceAs (Decidable (¬ u.parts < t.parts))

/-- An instant that is over when another one begins has the smaller count, unless it lies in a leap
second. -/
lemma nanoseconds_lt (ht : ¬ t.IsLeap) (h : t < u) : t.nanoseconds < u.nanoseconds := by
  have hlt : t.parts < u.parts := h
  have hdate : t.date.dayNumber < u.date.dayNumber ∨ t.date.dayNumber = u.date.dayNumber ∧
      (t.hour < u.hour ∨ t.hour = u.hour ∧ (t.minute < u.minute ∨ t.minute = u.minute ∧
        (t.second < u.second ∨ t.second = u.second ∧ t.nano < u.nano))) := by
    simp only [parts, List.cons_lt_cons_iff, Nat.cast_lt, Nat.cast_inj, List.not_lt_nil, and_false,
      or_false] at hlt
    rcases hlt with hyear | ⟨hyear, hmonth | ⟨hmonth, hday | ⟨hday, htime⟩⟩⟩
    · exact .inl (Date.dayNumber_lt (.inl hyear))
    · exact .inl (Date.dayNumber_lt (.inr ⟨hyear, .inl hmonth⟩))
    · exact .inl (Date.dayNumber_lt (.inr ⟨hyear, .inr ⟨hmonth, hday⟩⟩))
    · exact .inr ⟨by rw [Date.dayNumber, Date.dayNumber, hyear, hmonth, hday], htime⟩
  have hnano : t.nano < 1000000000 := not_le.mp ht
  have hthour := t.hour_lt
  have htminute := t.minute_lt
  have htsecond := t.second_lt
  have huminute := u.minute_lt
  have husecond := u.second_lt
  rw [nanoseconds, nanoseconds]
  omega

/-- Outside leap seconds, the count is in the order of time. -/
theorem lt_iff (ht : ¬ t.IsLeap) (hu : ¬ u.IsLeap) : t < u ↔ t.nanoseconds < u.nanoseconds := by
  refine ⟨nanoseconds_lt ht, fun h => ?_⟩
  rcases lt_trichotomy t.parts u.parts with hlt | heq | hgt
  · exact hlt
  · have hsame : t.nanoseconds = u.nanoseconds := by
      simp only [parts, List.cons.injEq, Nat.cast_inj, and_true] at heq
      obtain ⟨hyear, hmonth, hday, hhour, hminute, hsecond, hnano⟩ := heq
      rw [nanoseconds, nanoseconds, Date.dayNumber, Date.dayNumber, hyear, hmonth, hday, hhour, hminute,
        hsecond, hnano]
    omega
  · have hafter : u.nanoseconds < t.nanoseconds := nanoseconds_lt hu hgt
    omega

theorem le_iff (ht : ¬ t.IsLeap) (hu : ¬ u.IsLeap) : t ≤ u ↔ t.nanoseconds ≤ u.nanoseconds := by
  have h : t ≤ u ↔ ¬ u < t := Iff.rfl
  rw [h, lt_iff hu ht, not_lt]

lemma not_isLeap_epoch : ¬ epoch.IsLeap := by decide

lemma nanoseconds_epoch : epoch.nanoseconds = 0 := by decide

/-! ### Milliseconds -/

lemma of?_eq_some {date : Date} {hour minute second nano : ℕ}
    (h : of? date hour minute second nano = some t) :
    t.date = date ∧ t.hour = hour ∧ t.minute = minute ∧ t.second = second ∧ t.nano = nano := by
  rw [of?] at h
  split_ifs at h
  cases h
  exact ⟨rfl, rfl, rfl, rfl, rfl⟩

/-- The instant that is found for a number of milliseconds is exactly so far from the start of 1970, and
lies in no leap second. -/
theorem of_ofMilliseconds? {ms : ℤ} (h : ofMilliseconds? ms = some t) :
    t.nanoseconds = ms * 1000000 ∧ ¬ t.IsLeap := by
  obtain ⟨date, hdate, hof⟩ := Option.bind_eq_some_iff.mp h
  obtain ⟨rfl, hhour, hminute, hsecond, hnano⟩ := of?_eq_some hof
  have hday := Date.dayNumber_of_ofDayNumber? hdate
  rw [IsLeap, nanoseconds, hday, hhour, hminute, hsecond, hnano]
  omega

/-- There is an instant for every number of milliseconds from the calendar's first day to its last. -/
theorem exists_ofMilliseconds?_iff (ms : ℤ) : (∃ t, ofMilliseconds? ms = some t) ↔
    daysBeforeYear firstYear ≤ ms / 86400000 + daysBefore1970 ∧
      ms / 86400000 + daysBefore1970 < daysBeforeYear (lastYear + 1) := by
  have hday : ms / 86400000 = ms / 1000 / 86400 := by omega
  rw [hday, ← Date.exists_ofDayNumber?_iff]
  constructor
  · rintro ⟨t, ht⟩
    obtain ⟨date, hdate, -⟩ := Option.bind_eq_some_iff.mp ht
    exact ⟨date, hdate⟩
  · rintro ⟨date, hdate⟩
    have hfits : (ms / 1000 % 86400).toNat / 3600 < 24 ∧ (ms / 1000 % 86400).toNat / 60 % 60 < 60 ∧
        (ms / 1000 % 86400).toNat % 60 < 60 ∧ (ms % 1000).toNat * 1000000 < 2000000000 ∧
        (1000000000 ≤ (ms % 1000).toNat * 1000000 → (ms / 1000 % 86400).toNat % 60 = 59) := by
      omega
    obtain ⟨t, ht⟩ : ∃ t, of? date ((ms / 1000 % 86400).toNat / 3600)
        ((ms / 1000 % 86400).toNat / 60 % 60) ((ms / 1000 % 86400).toNat % 60)
        ((ms % 1000).toNat * 1000000) = some t := ⟨_, dif_pos hfits⟩
    exact ⟨t, Option.bind_eq_some_iff.mpr ⟨date, hdate, ht⟩⟩

end ChainElection.Instant
