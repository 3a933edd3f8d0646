import ChainElection.Text.Numeral
import ChainElection.Time.Instant

/-!
The written form of an instant: date, `T`, time of day, zone.

A year from 0 to 9999 has four digits; every other year has a sign and at least
four. A leap second has the number that comes after the one of its second: that
at the end of a minute has the number 60. Forms differ in two choices, which
`Form` holds: how many digits follow the second, and how universal time is
named.

* `Instant.text`: as few of 0, 3, 6 or 9 digits as keep the instant, then `Z`.
* `Instant.rowText`: three digits, the rest being cut off, then `Z`.
* `Instant.offsetText`: like the first, but with `+00:00`.
-/

namespace ChainElection

namespace Instant

/-- How many digits follow the second. -/
inductive Precision where
  | needed
  | milliseconds
  deriving DecidableEq

/-- The choices that a written form makes. -/
structure Form where
  precision : Precision
  zone : List Char

/-- A number with zeros in front, in at least `width` digits. -/
def padded (width n : Nat) : List Char :=
  let ds := Numeral.write n
  List.replicate (width - ds.length) '0' ++ ds

/-- A year: four digits if they are enough, else a sign and at least four digits. -/
def yearText (year : Int) : List Char :=
  if 0 ≤ year ∧ year ≤ 9999 then padded 4 year.toNat
  else (if year < 0 then '-' else '+') :: padded 4 year.natAbs

/-- The digits after the second, with their point. -/
def fractionText (p : Precision) (nano : Nat) : List Char :=
  match p with
  | .milliseconds => '.' :: padded 3 (nano / 1000000)
  | .needed =>
    if nano = 0 then []
    else if nano % 1000000 = 0 then '.' :: padded 3 (nano / 1000000)
    else if nano % 1000 = 0 then '.' :: padded 6 (nano / 1000)
    else '.' :: padded 9 nano

/-- The number that a second is shown by. -/
def shownSecond (t : Instant) : Nat := if 1000000000 ≤ t.nano then t.second + 1 else t.second

/-- The written form. -/
def write (f : Form) (t : Instant) : List Char :=
  yearText t.date.year ++ '-' :: padded 2 t.date.month ++ '-' :: padded 2 t.date.day ++
    'T' :: padded 2 t.hour ++ ':' :: padded 2 t.minute ++ ':' :: padded 2 t.shownSecond ++
    fractionText f.precision (t.nano % 1000000000) ++ f.zone

/-- The form in which instants are exchanged. -/
def exchanged : Form := ⟨.needed, ['Z']⟩

/-- The form in which instants are shown to people. -/
def shown : Form := ⟨.needed, ['+', '0', '0', ':', '0', '0']⟩

/-- The form in which rows of the submission index keep instants. -/
def stored : Form := ⟨.milliseconds, ['Z']⟩

/-- The exchanged form. -/
def text (t : Instant) : String := String.ofList (t.write exchanged)

/-- The form with the offset of universal time. -/
def offsetText (t : Instant) : String := String.ofList (t.write shown)

/-- The form of a row, cut down to milliseconds. -/
def rowText (t : Instant) : String := String.ofList (t.write stored)

end Instant

end ChainElection
