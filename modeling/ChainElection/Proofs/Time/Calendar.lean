import Mathlib.Tactic
import ChainElection.Time.Calendar

/-!
Days of the calendar, counted.

* `Calendar.daysBeforeMonth_thirteen`: the months make up the year.
* `Calendar.yearOfDay_spec`, `Calendar.monthOfDay_spec`: the year and the month
  that are found for a day are those in which it lies.
* `Date.dayNumber_lt`: the count of days grows with the date.
* `Date.dayNumber_of_ofDayNumber?`: the date that is found for a number of days has
  this number; `Date.exists_ofDayNumber?_iff`: there is one for every number from
  the calendar's first day to its last.
-/

namespace ChainElection

namespace Calendar

variable {year y z : ℤ} {m n : ℕ}

/-! ### Years -/

lemma daysBeforeYear_succ (year : ℤ) :
    daysBeforeYear (year + 1) = daysBeforeYear year + (if isLeap year = true then 366 else 365) := by
  have hleap : isLeap year = true ↔ year % 4 = 0 ∧ (year % 100 ≠ 0 ∨ year % 400 = 0) := by
    simp [isLeap]
  rw [daysBeforeYear, daysBeforeYear]
  by_cases h : year % 4 = 0 ∧ (year % 100 ≠ 0 ∨ year % 400 = 0)
  · rw [if_pos (hleap.mpr h)]
    omega
  · rw [if_neg (mt hleap.mp h)]
    omega

/-- A later year begins when the earlier one is over, or after that. -/
lemma daysBeforeYear_mono (h : y ≤ z) : daysBeforeYear y ≤ daysBeforeYear z := by
  rw [daysBeforeYear, daysBeforeYear]
  omega

/-- The year that is found for a day is the year in which it lies. -/
lemma yearOfDay_spec (n : ℤ) :
    daysBeforeYear (yearOfDay n) ≤ n ∧ n < daysBeforeYear (yearOfDay n + 1) := by
  -- The estimate is one off at most, so the year before it and the two years behind it are enough.
  have hestimate : daysBeforeYear (n * 400 / 146097 - 1) ≤ n ∧
      n < daysBeforeYear (n * 400 / 146097 + 1 + 1) := by
    rw [daysBeforeYear, daysBeforeYear]
    omega
  rw [yearOfDay]
  split_ifs with hlow hhigh
  · rw [sub_add_cancel]
    exact ⟨hestimate.1, hlow⟩
  · exact ⟨hhigh, hestimate.2⟩
  · exact ⟨not_lt.mp hlow, not_le.mp hhigh⟩

/-! ### Months -/

lemma daysBeforeMonth_succ (year : ℤ) (m : ℕ) :
    daysBeforeMonth year (m + 1) = daysBeforeMonth year m + daysInMonth year m := by
  have hfold (l : List ℕ) (n : ℕ) : l.foldr (fun m n => daysInMonth year m + n) n =
      l.foldr (fun m n => daysInMonth year m + n) 0 + n := by
    induction l with
    | nil => simp
    | cons m l ih => rw [List.foldr_cons, List.foldr_cons, ih, Nat.add_assoc]
  rw [daysBeforeMonth, List.range_succ, List.foldr_append, hfold, daysBeforeMonth]
  rfl

lemma daysBeforeMonth_mono (h : m ≤ n) : daysBeforeMonth year m ≤ daysBeforeMonth year n :=
  monotone_nat_of_le_succ (fun k => by rw [daysBeforeMonth_succ]; exact Nat.le_add_right _ _) h

/-- The year begins with its first month. -/
lemma daysBeforeMonth_one (year : ℤ) : daysBeforeMonth year 1 = 0 := rfl

/-- The months make up the year. -/
lemma daysBeforeMonth_thirteen (year : ℤ) :
    daysBeforeYear year + daysBeforeMonth year 13 = daysBeforeYear (year + 1) := by
  rw [daysBeforeYear_succ]
  simp only [daysBeforeMonth_succ, daysInMonth]
  split_ifs <;> rfl

/-- A month that is found for a day is not over by then, unless it is the last one that was looked at. -/
lemma monthOfDay_cases {month months m d : ℕ} (h : monthOfDay year month n months = (m, d)) :
    month ≤ m ∧ m ≤ month + months ∧ 1 ≤ d ∧
      daysBeforeMonth year m + d = daysBeforeMonth year month + n + 1 ∧
      (d ≤ daysInMonth year m ∨ m = month + months) := by
  induction months generalizing month n with
  | zero =>
      cases h
      exact ⟨le_rfl, le_rfl, Nat.le_add_left 1 n, rfl, .inr rfl⟩
  | succ months ih =>
      rw [monthOfDay] at h
      split_ifs at h with hn
      · cases h
        exact ⟨le_rfl, Nat.le_add_right _ _, Nat.le_add_left 1 n, rfl, .inl hn⟩
      · obtain ⟨hlow, hhigh, hd, hsum, hfits⟩ := ih h
        rw [daysBeforeMonth_succ] at hsum
        exact ⟨by omega, by omega, hd, by omega, hfits.imp_right (by omega)⟩

/-- The month that is found for a day of the year is the month in which it lies. -/
lemma monthOfDay_spec {m d : ℕ} (hn : n < daysBeforeMonth year 13)
    (h : monthOfDay year 1 n 11 = (m, d)) :
    1 ≤ d ∧ d ≤ daysInMonth year m ∧ daysBeforeMonth year m + d = n + 1 := by
  obtain ⟨-, -, hpos, hsum, hfits⟩ := monthOfDay_cases h
  rw [daysBeforeMonth_one, Nat.zero_add] at hsum
  refine ⟨hpos, ?_, hsum⟩
  rcases hfits with hfits | rfl
  · exact hfits
  · have hyear : daysBeforeMonth year 13 =
        daysBeforeMonth year (1 + 11) + daysInMonth year (1 + 11) := daysBeforeMonth_succ year 12
    omega

end Calendar

namespace Date

open Calendar

variable {d e : Date} {n : ℤ}

/-! ### Dates -/

/-- A date lies in its year. -/
lemma dayNumber_mem_year (d : Date) :
    daysBeforeYear d.year ≤ d.dayNumber + daysBefore1970 ∧
      d.dayNumber + daysBefore1970 < daysBeforeYear (d.year + 1) := by
  have hmonth : daysBeforeMonth d.year (d.month + 1) ≤ daysBeforeMonth d.year 13 :=
    daysBeforeMonth_mono (Nat.succ_le_succ d.month_mem.2)
  have hday := d.day_mem
  rw [daysBeforeMonth_succ] at hmonth
  rw [← daysBeforeMonth_thirteen, dayNumber]
  omega

/-- A date lies in the calendar. -/
lemma dayNumber_mem (d : Date) :
    daysBeforeYear firstYear ≤ d.dayNumber + daysBefore1970 ∧
      d.dayNumber + daysBefore1970 < daysBeforeYear (lastYear + 1) := by
  have hyear := d.dayNumber_mem_year
  have hfirst := daysBeforeYear_mono d.year_mem.1
  have hlast := daysBeforeYear_mono (Int.add_le_add_right d.year_mem.2 1)
  exact ⟨hfirst.trans hyear.1, hyear.2.trans_le hlast⟩

/-- The count of days grows with the date. -/
theorem dayNumber_lt (h : d.year < e.year ∨ d.year = e.year ∧
    (d.month < e.month ∨ d.month = e.month ∧ d.day < e.day)) : d.dayNumber < e.dayNumber := by
  rcases h with hyear | ⟨hyear, hmonth | ⟨hmonth, hday⟩⟩
  · have hd := d.dayNumber_mem_year
    have he := e.dayNumber_mem_year
    have hle : daysBeforeYear (d.year + 1) ≤ daysBeforeYear e.year := daysBeforeYear_mono hyear
    omega
  · have hle : daysBeforeMonth e.year (d.month + 1) ≤ daysBeforeMonth e.year e.month :=
      daysBeforeMonth_mono hmonth
    have hd := d.day_mem
    rw [daysBeforeMonth_succ] at hle
    rw [hyear] at hd
    rw [dayNumber, dayNumber, hyear]
    omega
  · have hd := d.day_mem
    rw [dayNumber, dayNumber, hyear, hmonth]
    omega

/-- The year, the month and the day that are looked for make up the number. -/
lemma ofDayNumber?_eq (n : ℤ) : ∃ year m day, ofDayNumber? n = of? year m day ∧
    (daysBeforeYear year ≤ n + daysBefore1970 ∧ n + daysBefore1970 < daysBeforeYear (year + 1)) ∧
    (1 ≤ day ∧ day ≤ daysInMonth year m) ∧
    daysBeforeYear year + daysBeforeMonth year m + (day - 1 : ℕ) - daysBefore1970 = n := by
  obtain ⟨hlow, hhigh⟩ := yearOfDay_spec (n + daysBefore1970)
  have hlength := daysBeforeMonth_thirteen (yearOfDay (n + daysBefore1970))
  have hday : (n + daysBefore1970 - daysBeforeYear (yearOfDay (n + daysBefore1970))).toNat <
      daysBeforeMonth (yearOfDay (n + daysBefore1970)) 13 := by omega
  obtain ⟨hpos, hfits, hsum⟩ := monthOfDay_spec hday rfl
  exact ⟨_, _, _, rfl, ⟨hlow, hhigh⟩, ⟨hpos, hfits⟩, by omega⟩

/-- The date that is found for a number of days has this number. -/
theorem dayNumber_of_ofDayNumber? (h : ofDayNumber? n = some d) : d.dayNumber = n := by
  obtain ⟨year, m, day, hfound, -, -, hsum⟩ := ofDayNumber?_eq n
  obtain ⟨rfl, rfl, rfl⟩ := of?_eq_some (hfound.symm.trans h)
  exact hsum

/-- There is a date for every number of days from the calendar's first day to its last. -/
theorem exists_ofDayNumber?_iff : (∃ d, ofDayNumber? n = some d) ↔
    daysBeforeYear firstYear ≤ n + daysBefore1970 ∧
      n + daysBefore1970 < daysBeforeYear (lastYear + 1) := by
  constructor
  · rintro ⟨d, hd⟩
    obtain rfl := dayNumber_of_ofDayNumber? hd
    exact d.dayNumber_mem
  · rintro ⟨hfirst, hlast⟩
    obtain ⟨year, m, day, hfound, hyear, hday, -⟩ := ofDayNumber?_eq n
    have hyears : firstYear ≤ year ∧ year ≤ lastYear := by
      constructor
      · by_contra hlt
        have hover := daysBeforeYear_mono (Int.add_one_le_of_lt (not_le.mp hlt))
        omega
      · by_contra hlt
        have hahead := daysBeforeYear_mono (Int.add_one_le_of_lt (not_le.mp hlt))
        omega
    rw [hfound, of?, dif_pos ⟨hyears, hday⟩]
    exact ⟨_, rfl⟩

end Date

end ChainElection
