/-!
The proleptic Gregorian calendar, from year -262143 to year 262142.

A `Date` is a year, a month and a day that exist. `Date.next?` and
`Date.previous?` step by one day and stop at the ends of the calendar.
`Date.dayNumber` counts the days since the first of January 1970, and
`Date.ofDayNumber?` finds the date again:

* the year is estimated from the mean length of a year and mended by one, the
  estimate never being further off;
* the month is found by taking the months' lengths off the day of the year.
-/

namespace ChainElection

/-! ### Years and months -/

namespace Calendar

/-- The first year of the calendar. -/
def firstYear : Int := -262143

/-- The last year of the calendar. -/
def lastYear : Int := 262142

/-- Has the year a 29th of February? -/
def isLeap (year : Int) : Bool :=
  year % 4 == 0 && (year % 100 != 0 || year % 400 == 0)

/-- The number of days of a month, none for a month that does not exist. -/
def daysInMonth (year : Int) : Nat → Nat
  | 1 | 3 | 5 | 7 | 8 | 10 | 12 => 31
  | 4 | 6 | 9 | 11 => 30
  | 2 => if isLeap year then 29 else 28
  | _ => 0

/-- The days of the months before a month. -/
def daysBeforeMonth (year : Int) (month : Nat) : Nat :=
  (List.range month).foldr (fun m n => daysInMonth year m + n) 0

/-- The days from the start of year 0 to the start of a year. -/
def daysBeforeYear (year : Int) : Int :=
  365 * year + (year + 3) / 4 - (year + 99) / 100 + (year + 399) / 400

/-- The days from the start of year 0 to the start of 1970. -/
def daysBefore1970 : Int := 719528

/-- The year in which the `n`th day after the start of year 0 lies. -/
def yearOfDay (n : Int) : Int :=
  let y := n * 400 / 146097
  if n < daysBeforeYear y then y - 1
  else if daysBeforeYear (y + 1) ≤ n then y + 1
  else y

/-- The month and the day of the `n`th day after the start of `month`, counting over at most
`months` months. -/
def monthOfDay (year : Int) (month n : Nat) : Nat → Nat × Nat
  | 0 => (month, n + 1)
  | months + 1 =>
    if n < daysInMonth year month then (month, n + 1)
    else monthOfDay year (month + 1) (n - daysInMonth year month) months

end Calendar

/-! ### Dates -/

/-- A day of the calendar. -/
structure Date where
  year : Int
  month : Nat
  day : Nat
  year_mem : Calendar.firstYear ≤ year ∧ year ≤ Calendar.lastYear
  day_mem : 1 ≤ day ∧ day ≤ Calendar.daysInMonth year month
  deriving DecidableEq

namespace Date

/-- The date of a year, a month and a day, if it exists. -/
def of? (year : Int) (month day : Nat) : Option Date :=
  if h : (Calendar.firstYear ≤ year ∧ year ≤ Calendar.lastYear) ∧
      (1 ≤ day ∧ day ≤ Calendar.daysInMonth year month) then
    some ⟨year, month, day, h.1, h.2⟩
  else none

/-- The first of January 1970. -/
def epoch : Date := ⟨1970, 1, 1, by decide, by decide⟩

instance : Inhabited Date := ⟨epoch⟩

/-- The day after, unless the calendar ends. -/
def next? (d : Date) : Option Date :=
  (of? d.year d.month (d.day + 1)).or <|
    (of? d.year (d.month + 1) 1).or (of? (d.year + 1) 1 1)

/-- The day before, unless the calendar starts there. -/
def previous? (d : Date) : Option Date :=
  (of? d.year d.month (d.day - 1)).or <|
    (of? d.year (d.month - 1) (Calendar.daysInMonth d.year (d.month - 1))).or
      (of? (d.year - 1) 12 31)

/-- The days since the first of January 1970. -/
def dayNumber (d : Date) : Int :=
  Calendar.daysBeforeYear d.year + Calendar.daysBeforeMonth d.year d.month + (d.day - 1 : Nat) -
    Calendar.daysBefore1970

/-- The date that lies a number of days after the first of January 1970, if the calendar has it. -/
def ofDayNumber? (n : Int) : Option Date :=
  let n := n + Calendar.daysBefore1970
  let year := Calendar.yearOfDay n
  let (month, day) := Calendar.monthOfDay year 1 (n - Calendar.daysBeforeYear year).toNat 11
  of? year month day

theorem of?_self (d : Date) : of? d.year d.month d.day = some d := by
  cases d with
  | mk y m d hy hd => simp [of?, hy, hd]

theorem of?_eq_some {year : Int} {month day : Nat} {d : Date} (h : of? year month day = some d) :
    d.year = year ∧ d.month = month ∧ d.day = day := by
  unfold of? at h
  split at h
  · cases h; exact ⟨rfl, rfl, rfl⟩
  · exact nomatch h

/-- There are twelve months. -/
theorem month_mem (d : Date) : 1 ≤ d.month ∧ d.month ≤ 12 := by
  have h := d.day_mem
  have hpos : 0 < Calendar.daysInMonth d.year d.month := by omega
  unfold Calendar.daysInMonth at hpos
  split at hpos <;> simp_all

/-- A month has at most 31 days. -/
theorem day_le (d : Date) : d.day ≤ 31 := by
  have h := d.day_mem.2
  have : Calendar.daysInMonth d.year d.month ≤ 31 := by
    unfold Calendar.daysInMonth
    split <;> (try split) <;> omega
  omega

end Date

end ChainElection
