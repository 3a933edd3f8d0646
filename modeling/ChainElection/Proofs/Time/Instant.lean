import Mathlib.Tactic
import ChainElection.Proofs.Time.Digits

/-!
Written instants, read back.

* `Instant.takeYear_yearText`, `Instant.takeFraction_fractionText`: the parts
  whose number of digits depends on the instant.
* `Instant.settled` is what an instant looks like when it is written: a leap
  second in the middle of a minute looks like the next second.
* `Instant.atOffset?_zero`: a leap second's number 60 and its nanoseconds lead
  back to it.
* `Instant.readLenient_text`: what an instant looks like is read back from its
  exchanged form. `IsRegular.of_readLenient`, `IsRegular.of_readStrict`: all that
  is read is regular.
-/

namespace ChainElection.Instant

/-! ### Years -/

lemma stops_cons {c : Char} (h : (Numeral.digit? c).isSome = false) (s : List Char) :
    Stops (c :: s) := by
  intro d hd
  cases hd
  exact h

/-- Any number of digits may be taken off the front. -/
lemma takeDigits_all {width n : ℕ} {s : List Char} (hstop : Stops s) :
    takeDigits (padded width n ++ s).length (padded width n ++ s) = some (n, s) := by
  have hle : (padded width n).length ≤ (padded width n ++ s).length := by
    rw [List.length_append]
    omega
  rw [takeDigits_append (padded_allDigits width n) (padded_ne_nil width n) hle (.inr hstop),
    value_padded]

lemma takeYear_minus (s : List Char) :
    takeYear ('-' :: s) = (takeDigits s.length s).map fun (n, r) => (-(n : ℤ), r) := rfl

lemma takeYear_plus (s : List Char) :
    takeYear ('+' :: s) = (takeDigits s.length s).map fun (n, r) => ((n : ℤ), r) := rfl

/-- A year is read back from its digits and its sign. -/
lemma takeYear_yearText (year : ℤ) (s : List Char) :
    takeYear (yearText year ++ '-' :: s) = some (year, '-' :: s) := by
  have hstop : Stops ('-' :: s) := stops_cons rfl s
  rw [yearText]
  split
  · rename_i hfour
    obtain ⟨n, rfl⟩ := Int.eq_ofNat_of_zero_le hfour.1
    have hn : n < 10 ^ 4 := by omega
    obtain ⟨c, r, hcons⟩ := List.exists_cons_of_ne_nil (padded_ne_nil 4 n)
    have hdigit : (Numeral.digit? c).isSome = true := padded_allDigits 4 n c (by simp [hcons])
    have hread := takeDigits_padded (by decide) hn ('-' :: s)
    rw [Int.toNat_natCast, takeYear, trimStart_padded]
    rw [hcons, List.cons_append] at hread ⊢
    -- A digit is neither of the signs, so the year is the one without a sign.
    split
    · rename_i heq
      cases heq
      exact absurd hdigit (by decide)
    · rename_i heq
      cases heq
      exact absurd hdigit (by decide)
    · rw [hread]
      rfl
  · have hread (m : ℕ) : takeDigits (padded 4 m ++ '-' :: s).length (padded 4 m ++ '-' :: s) =
        some (m, '-' :: s) := takeDigits_all hstop
    by_cases hneg : year < 0
    · have hyear : -(year.natAbs : ℤ) = year := by omega
      rw [if_pos hneg, List.cons_append, takeYear_minus, hread]
      simp only [Option.map_some, hyear]
    · have hyear : (year.natAbs : ℤ) = year := by omega
      rw [if_neg hneg, List.cons_append, takeYear_plus, hread]
      simp only [Option.map_some, hyear]

/-! ### Numbers of two digits -/

lemma takeCharAfterBlanks_cons {c : Char} (h : Text.isBlank c = false) (s : List Char) :
    takeCharAfterBlanks c (c :: s) = some s := by
  rw [takeCharAfterBlanks, Text.trimStart, List.dropWhile_cons_of_neg (by simp [h]), takeChar,
    if_pos rfl]

lemma takeShort_padded {n : ℕ} (hn : n < 100) (s : List Char) :
    takeShort (padded 2 n ++ s) = some (n, s) := by
  rw [takeShort, trimStart_padded, takeDigits_padded (by decide) hn]

/-! ### Fractions of a second -/

/-- Digits after the point count as so many billionths. -/
lemma takeFraction_digits {width n : ℕ} {s : List Char} (hpos : 0 < width) (hle : width ≤ 9)
    (hn : n < 10 ^ width) (hstop : Stops s) :
    takeFraction ('.' :: padded width n ++ s) = some (n * 10 ^ (9 - width), s) := by
  have hlength := length_padded hpos hn
  have hread : takeDigits 9 (padded width n ++ s) = some (n, s) := by
    rw [takeDigits_append (padded_allDigits width n) (padded_ne_nil width n) (by omega)
      (.inr hstop), value_padded]
  rw [List.cons_append, takeFraction]
  simp only [hread, Option.bind_eq_bind, Option.bind_some, List.length_append,
    Nat.add_sub_cancel_right, hlength, dropWhile_stops hstop]
  rfl

/-- The nanoseconds are read back from their digits. -/
lemma takeFraction_fractionText {nano : ℕ} (hnano : nano < 1000000000) (s : List Char) :
    takeFraction (fractionText .needed nano ++ 'Z' :: s) = some (nano, 'Z' :: s) := by
  have hstop : Stops ('Z' :: s) := stops_cons rfl s
  rw [fractionText]
  split
  · rename_i hzero
    rw [hzero]
    rfl
  split
  · have hn : nano / 1000000 < 10 ^ 3 := by omega
    have hback : nano / 1000000 * 10 ^ (9 - 3) = nano := by omega
    rw [takeFraction_digits (by decide) (by decide) hn hstop, hback]
  split
  · have hn : nano / 1000 < 10 ^ 6 := by omega
    have hback : nano / 1000 * 10 ^ (9 - 6) = nano := by omega
    rw [takeFraction_digits (by decide) (by decide) hn hstop, hback]
  · rw [takeFraction_digits (by decide) (by decide) hnano hstop, Nat.sub_self, Nat.pow_zero,
      Nat.mul_one]

/-! ### Leap seconds -/

variable {t : Instant}

/-- The regular instant that looks like the given one. A leap second behind any other second than 59 looks
like the next second. -/
def settled (t : Instant) : Instant :=
  if h : 1000000000 ≤ t.nano ∧ t.second ≠ 59 then
    { t with
      second := t.second + 1
      nano := t.nano - 1000000000
      second_lt := by have := t.second_lt; omega
      nano_lt := by have := t.nano_lt; omega }
  else t

lemma settled_of_isRegular (h : t.IsRegular) : t.settled = t := by
  rw [settled, dif_neg]
  rintro ⟨hleap, hsecond⟩
  exact hsecond (h hleap)

lemma isRegular_settled (t : Instant) : t.settled.IsRegular := by
  rw [settled]
  split
  · intro hleap
    have hnano := t.nano_lt
    have hless : 1000000000 ≤ t.nano - 1000000000 := hleap
    omega
  · rename_i h
    intro hleap
    by_contra hsecond
    exact h ⟨hleap, hsecond⟩

/-- An instant looks like itself only if it is regular. -/
lemma settled_eq_self_iff : t.settled = t ↔ t.IsRegular :=
  ⟨fun h => h ▸ t.isRegular_settled, settled_of_isRegular⟩

@[simp] lemma date_settled (t : Instant) : t.settled.date = t.date := by
  rw [settled]
  split <;> rfl

@[simp] lemma hour_settled (t : Instant) : t.settled.hour = t.hour := by
  rw [settled]
  split <;> rfl

@[simp] lemma minute_settled (t : Instant) : t.settled.minute = t.minute := by
  rw [settled]
  split <;> rfl

@[simp] lemma shownSecond_settled (t : Instant) : t.settled.shownSecond = t.shownSecond := by
  have hnano := t.nano_lt
  rw [settled]
  split
  · rename_i h
    rw [shownSecond, shownSecond, if_pos h.1]
    exact if_neg (by simp only; omega)
  · rfl

@[simp] lemma nano_settled (t : Instant) : t.settled.nano % 1000000000 = t.nano % 1000000000 := by
  rw [settled]
  split
  · simp only
    omega
  · rfl

/-- Written in any form, an instant looks like the regular one. -/
lemma write_settled (f : Form) (t : Instant) : t.settled.write f = t.write f := by
  simp only [write, date_settled, hour_settled, minute_settled, shownSecond_settled, nano_settled]

/-! ### What is found is regular -/

lemma IsRegular.of_of? {date : Date} {hour minute second nano : ℕ}
    (h : of? date hour minute second nano = some t) : t.IsRegular := by
  rw [of?] at h
  split at h
  · rename_i hfits
    cases h
    exact hfits.2.2.2.2
  · cases h

lemma IsRegular.of_atOffset? {date : Date} {hour minute second nano : ℕ} {offset : ℤ}
    (h : atOffset? date hour minute second nano offset = some t) : t.IsRegular := by
  have hfound (d : Date) (minutes : ℕ)
      (h : (if second = 60 then of? d (minutes / 60) (minutes % 60) 59 (nano + 1000000000)
        else of? d (minutes / 60) (minutes % 60) second nano) = some t) : t.IsRegular := by
    split at h
    · exact .of_of? h
    · exact .of_of? h
  obtain ⟨-, -, h⟩ := Option.bind_eq_some_iff.mp h
  dsimp only at h
  split at h
  · obtain ⟨d, -, h⟩ := Option.bind_eq_some_iff.mp h
    exact hfound d _ h
  split at h
  · obtain ⟨d, -, h⟩ := Option.bind_eq_some_iff.mp h
    exact hfound d _ h
  · exact hfound date _ h

/-- All that is read of the lenient grammar is regular. -/
lemma IsRegular.of_readLenient {s : List Char} (h : readLenient s = some t) : t.IsRegular := by
  obtain ⟨⟨year, s⟩, -, h⟩ := Option.bind_eq_some_iff.mp h
  obtain ⟨s, -, h⟩ := Option.bind_eq_some_iff.mp h
  obtain ⟨⟨month, s⟩, -, h⟩ := Option.bind_eq_some_iff.mp h
  obtain ⟨s, -, h⟩ := Option.bind_eq_some_iff.mp h
  obtain ⟨⟨day, s⟩, -, h⟩ := Option.bind_eq_some_iff.mp h
  obtain ⟨s, -, h⟩ := Option.bind_eq_some_iff.mp h
  obtain ⟨⟨hour, s⟩, -, h⟩ := Option.bind_eq_some_iff.mp h
  obtain ⟨s, -, h⟩ := Option.bind_eq_some_iff.mp h
  obtain ⟨⟨minute, s⟩, -, h⟩ := Option.bind_eq_some_iff.mp h
  obtain ⟨s, -, h⟩ := Option.bind_eq_some_iff.mp h
  obtain ⟨⟨second, s⟩, -, h⟩ := Option.bind_eq_some_iff.mp h
  obtain ⟨⟨nano, s⟩, -, h⟩ := Option.bind_eq_some_iff.mp h
  obtain ⟨⟨offset, s⟩, -, h⟩ := Option.bind_eq_some_iff.mp h
  obtain ⟨-, -, h⟩ := Option.bind_eq_some_iff.mp h
  obtain ⟨date, -, h⟩ := Option.bind_eq_some_iff.mp h
  exact .of_atOffset? h

/-- All that is read of the strict grammar is regular. -/
lemma IsRegular.of_readStrict {s : List Char} (h : readStrict s = some t) : t.IsRegular := by
  obtain ⟨⟨year, s⟩, -, h⟩ := Option.bind_eq_some_iff.mp h
  obtain ⟨s, -, h⟩ := Option.bind_eq_some_iff.mp h
  obtain ⟨⟨month, s⟩, -, h⟩ := Option.bind_eq_some_iff.mp h
  obtain ⟨s, -, h⟩ := Option.bind_eq_some_iff.mp h
  obtain ⟨⟨day, s⟩, -, h⟩ := Option.bind_eq_some_iff.mp h
  obtain ⟨s, -, h⟩ := Option.bind_eq_some_iff.mp h
  obtain ⟨⟨hour, s⟩, -, h⟩ := Option.bind_eq_some_iff.mp h
  obtain ⟨s, -, h⟩ := Option.bind_eq_some_iff.mp h
  obtain ⟨⟨minute, s⟩, -, h⟩ := Option.bind_eq_some_iff.mp h
  obtain ⟨s, -, h⟩ := Option.bind_eq_some_iff.mp h
  obtain ⟨⟨second, s⟩, -, h⟩ := Option.bind_eq_some_iff.mp h
  obtain ⟨⟨nano, s⟩, -, h⟩ := Option.bind_eq_some_iff.mp h
  obtain ⟨⟨offset, s⟩, -, h⟩ := Option.bind_eq_some_iff.mp h
  obtain ⟨-, -, h⟩ := Option.bind_eq_some_iff.mp h
  obtain ⟨date, -, h⟩ := Option.bind_eq_some_iff.mp h
  exact .of_atOffset? h

/-! ### The instant itself -/

lemma of?_self (h : t.IsRegular) : of? t.date t.hour t.minute t.second t.nano = some t := by
  rw [of?, dif_pos ⟨t.hour_lt, t.minute_lt, t.second_lt, t.nano_lt, h⟩]

/-- The parts that are shown at no offset are those of the instant, a regular leap second included. -/
lemma atOffset?_zero (h : t.IsRegular) :
    atOffset? t.date t.hour t.minute t.shownSecond (t.nano % 1000000000) 0 = some t := by
  have hhour := t.hour_lt
  have hminute := t.minute_lt
  have hsecond := t.second_lt
  have hnano := t.nano_lt
  have hguard : t.hour < 24 ∧ t.minute < 60 ∧ t.nano % 1000000000 < 1000000000 :=
    ⟨hhour, hminute, Nat.mod_lt _ (by decide)⟩
  have hearly : ¬ ((t.hour * 60 + t.minute : ℕ) : ℤ) - 0 < 0 := by omega
  have hlate : ¬ 1440 ≤ ((t.hour * 60 + t.minute : ℕ) : ℤ) - 0 := by omega
  have hminutes : ((((t.hour * 60 + t.minute : ℕ) : ℤ) - 0) % 1440).toNat =
      t.hour * 60 + t.minute := by omega
  have hhours : (t.hour * 60 + t.minute) / 60 = t.hour := by omega
  have hrest : (t.hour * 60 + t.minute) % 60 = t.minute := by omega
  simp only [atOffset?, guard, hguard, hearly, hlate, and_self, if_true, if_false,
    Option.pure_def, Option.bind_eq_bind, Option.bind_some, hminutes, hhours, hrest, shownSecond]
  by_cases hleap : 1000000000 ≤ t.nano
  · have hback : t.nano % 1000000000 + 1000000000 = t.nano := by omega
    have hlast : t.second + 1 = 60 := by rw [h hleap]
    rw [if_pos hleap, if_pos hlast, hback, ← h hleap]
    exact of?_self h
  · have hback : t.nano % 1000000000 = t.nano := by omega
    rw [if_neg hleap, if_neg (by omega), hback]
    exact of?_self h

/-- A regular instant is read back from its exchanged form. -/
lemma readLenient_of_isRegular (h : t.IsRegular) : readLenient t.text.toList = some t := by
  have hmonth : t.date.month < 100 := by have := t.date.month_mem; omega
  have hday : t.date.day < 100 := by have := t.date.day_le; omega
  have hhour : t.hour < 100 := by have := t.hour_lt; omega
  have hminute : t.minute < 100 := by have := t.minute_lt; omega
  have hsecond : t.shownSecond < 100 := by
    have := t.second_lt
    rw [shownSecond]
    split <;> omega
  have hnano : t.nano % 1000000000 < 1000000000 := Nat.mod_lt _ (by decide)
  have hzone : takeLenientZone (Text.trimStart ['Z']) = some (0, []) := rfl
  rw [text, String.toList_ofList, write, exchanged]
  simp only [List.append_assoc, List.cons_append]
  refine Option.bind_eq_some_iff.mpr ⟨_, takeYear_yearText _ _, ?_⟩
  refine Option.bind_eq_some_iff.mpr ⟨_, takeCharAfterBlanks_cons rfl _, ?_⟩
  refine Option.bind_eq_some_iff.mpr ⟨_, takeShort_padded hmonth _, ?_⟩
  refine Option.bind_eq_some_iff.mpr ⟨_, takeCharAfterBlanks_cons rfl _, ?_⟩
  refine Option.bind_eq_some_iff.mpr ⟨_, takeShort_padded hday _, ?_⟩
  refine Option.bind_eq_some_iff.mpr ⟨_, rfl, ?_⟩
  refine Option.bind_eq_some_iff.mpr ⟨_, takeShort_padded hhour _, ?_⟩
  refine Option.bind_eq_some_iff.mpr ⟨_, takeCharAfterBlanks_cons rfl _, ?_⟩
  refine Option.bind_eq_some_iff.mpr ⟨_, takeShort_padded hminute _, ?_⟩
  refine Option.bind_eq_some_iff.mpr ⟨_, takeCharAfterBlanks_cons rfl _, ?_⟩
  refine Option.bind_eq_some_iff.mpr ⟨_, takeShort_padded hsecond _, ?_⟩
  refine Option.bind_eq_some_iff.mpr ⟨_, takeFraction_fractionText hnano _, ?_⟩
  refine Option.bind_eq_some_iff.mpr ⟨_, hzone, ?_⟩
  refine Option.bind_eq_some_iff.mpr ⟨(), rfl, ?_⟩
  refine Option.bind_eq_some_iff.mpr ⟨_, Date.of?_self t.date, ?_⟩
  exact atOffset?_zero h

/-- What an instant looks like is read back from its exchanged form. -/
theorem readLenient_text (t : Instant) : readLenient t.text.toList = some t.settled := by
  rw [text, ← write_settled]
  exact readLenient_of_isRegular t.isRegular_settled

end ChainElection.Instant
