import Mathlib.Data.List.TakeWhile
import Mathlib.Tactic
import ChainElection.Proofs.Time.Instant

/-!
Stored instants, read back.

* `Instant.takeExactly_padded`: a number is taken off the front if it is written
  in just as many digits.
* `Instant.IsKept`: rows keep regular instants whose year has four digits.
* `Instant.readStrict_rowText`: what an instant looks like is read back from the
  form of a row, cut down to milliseconds, if its year has four digits. A year
  with a sign is not read at all.
-/

namespace ChainElection.Instant

/-! ### Numbers of a fixed width -/

lemma takeExactly_padded {width n : ℕ} (hwidth : 0 < width) (hn : n < 10 ^ width) (s : List Char) :
    takeExactly width (padded width n ++ s) = some (n, s) := by
  have hlength := length_padded hwidth hn
  have hfront : (padded width n ++ s).take width = padded width n := List.take_left' hlength
  have hdigits : (padded width n).takeWhile (fun c => (Numeral.digit? c).isSome) = padded width n :=
    List.takeWhile_eq_self_iff.mpr (padded_allDigits width n)
  rw [takeExactly, hfront, hdigits, if_pos hlength, takeDigits_padded hwidth hn]

lemma takeExactly_of_not_digit {width : ℕ} {c : Char} (hwidth : 0 < width)
    (hc : (Numeral.digit? c).isSome = false) (s : List Char) : takeExactly width (c :: s) = none := by
  have hstop : ((c :: s).take width).takeWhile (fun c => (Numeral.digit? c).isSome) = [] :=
    takeWhile_stops (stops_cons hc s) width
  rw [takeExactly, hstop, if_neg]
  simp only [List.length_nil]
  omega

/-! ### Instants -/

/-- Does the year of the instant have four digits and no sign? -/
def HasPlainYear (t : Instant) : Prop := 0 ≤ t.date.year ∧ t.date.year ≤ 9999

instance (t : Instant) : Decidable t.HasPlainYear := inferInstanceAs (Decidable (_ ∧ _))

lemma hasPlainYear_settled {t : Instant} : t.settled.HasPlainYear ↔ t.HasPlainYear := by
  rw [HasPlainYear, HasPlainYear, date_settled]

lemma IsRegular.toMillisecond {t : Instant} (h : t.IsRegular) : t.toMillisecond.IsRegular := by
  intro hleap
  have hless : 1000000000 ≤ t.nano / 1000000 * 1000000 := hleap
  exact h (by omega)

/-- The shown parts of an instant, the nanoseconds cut down, are those of the instant cut down. -/
lemma atOffset?_toMillisecond {t : Instant} (h : t.IsRegular) :
    atOffset? t.date t.hour t.minute t.shownSecond (t.nano % 1000000000 / 1000000 * 10 ^ 6) 0 =
      some t.toMillisecond := by
  have hsecond : t.toMillisecond.shownSecond = t.shownSecond := by
    have hleap : 1000000000 ≤ t.nano / 1000000 * 1000000 ↔ 1000000000 ≤ t.nano := by omega
    simp only [shownSecond, toMillisecond, hleap]
  have hnano : t.toMillisecond.nano % 1000000000 = t.nano % 1000000000 / 1000000 * 10 ^ 6 := by
    show t.nano / 1000000 * 1000000 % 1000000000 = _
    omega
  rw [← hsecond, ← hnano]
  exact atOffset?_zero h.toMillisecond

/-- The instant is regular, and its year has four digits. -/
structure IsKept (t : Instant) : Prop where
  regular : t.IsRegular
  plain : t.HasPlainYear

/-- An instant that rows keep is read back, cut down to milliseconds. -/
lemma IsKept.readStrict {t : Instant} (h : t.IsKept) :
    readStrict t.rowText.toList = some t.toMillisecond := by
  obtain ⟨hregular, hlow, hhigh⟩ := h
  have hyear : t.date.year.toNat < 10 ^ 4 := by omega
  have hback : ((t.date.year.toNat : ℕ) : ℤ) = t.date.year := Int.toNat_of_nonneg hlow
  have hmonth : t.date.month < 10 ^ 2 := by have := t.date.month_mem; omega
  have hday : t.date.day < 10 ^ 2 := by have := t.date.day_le; omega
  have hhour : t.hour < 10 ^ 2 := by have := t.hour_lt; omega
  have hminute : t.minute < 10 ^ 2 := by have := t.minute_lt; omega
  have hsecond : t.shownSecond < 10 ^ 2 := by
    have := t.second_lt
    rw [shownSecond]
    split <;> omega
  have hmilli : t.nano % 1000000000 / 1000000 < 10 ^ 3 := by omega
  have hstop : Stops ['Z'] := stops_cons rfl []
  have hfraction := takeFraction_digits (by decide) (by decide) hmilli hstop
  rw [rowText, String.toList_ofList, write, stored, yearText, if_pos ⟨hlow, hhigh⟩]
  simp only [List.append_assoc, List.cons_append, fractionText]
  refine Option.bind_eq_some_iff.mpr ⟨_, takeExactly_padded (by decide) hyear _, ?_⟩
  refine Option.bind_eq_some_iff.mpr ⟨_, rfl, ?_⟩
  refine Option.bind_eq_some_iff.mpr ⟨_, takeExactly_padded (by decide) hmonth _, ?_⟩
  refine Option.bind_eq_some_iff.mpr ⟨_, rfl, ?_⟩
  refine Option.bind_eq_some_iff.mpr ⟨_, takeExactly_padded (by decide) hday _, ?_⟩
  refine Option.bind_eq_some_iff.mpr ⟨_, rfl, ?_⟩
  refine Option.bind_eq_some_iff.mpr ⟨_, takeExactly_padded (by decide) hhour _, ?_⟩
  refine Option.bind_eq_some_iff.mpr ⟨_, rfl, ?_⟩
  refine Option.bind_eq_some_iff.mpr ⟨_, takeExactly_padded (by decide) hminute _, ?_⟩
  refine Option.bind_eq_some_iff.mpr ⟨_, rfl, ?_⟩
  refine Option.bind_eq_some_iff.mpr ⟨_, takeExactly_padded (by decide) hsecond _, ?_⟩
  refine Option.bind_eq_some_iff.mpr ⟨_, hfraction, ?_⟩
  refine Option.bind_eq_some_iff.mpr ⟨_, rfl, ?_⟩
  refine Option.bind_eq_some_iff.mpr ⟨(), rfl, ?_⟩
  refine Option.bind_eq_some_iff.mpr ⟨t.date, by rw [hback, Date.of?_self], ?_⟩
  exact atOffset?_toMillisecond hregular

/-- A year that is written with a sign is no number of four digits. -/
lemma readStrict_of_not_plainYear {t : Instant} (h : ¬ t.HasPlainYear) :
    readStrict t.rowText.toList = none := by
  have hyear : ¬ (0 ≤ t.date.year ∧ t.date.year ≤ 9999) := h
  have hsign : (Numeral.digit? (if t.date.year < 0 then '-' else '+')).isSome = false := by
    split <;> rfl
  rw [rowText, String.toList_ofList, write, yearText, if_neg hyear]
  simp only [List.append_assoc, List.cons_append]
  rw [readStrict, takeExactly_of_not_digit (by decide) hsign]
  rfl

/-- What an instant looks like is read back from the form of a row, cut down to milliseconds, if its year
has four digits. -/
theorem readStrict_rowText (t : Instant) : readStrict t.rowText.toList =
    if t.HasPlainYear then some t.settled.toMillisecond else none := by
  split
  · rename_i h
    rw [rowText, ← write_settled]
    exact IsKept.readStrict ⟨t.isRegular_settled, hasPlainYear_settled.mpr h⟩
  · rename_i h
    exact readStrict_of_not_plainYear h

end ChainElection.Instant
