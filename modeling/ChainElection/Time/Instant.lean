import ChainElection.Time.Calendar

/-!
Instants of universal time, to the nanosecond.

An `Instant` is a date and a time of day. In a leap second it has the number of
the second before and a nanosecond count from 10⁹ on. Leap seconds come at the
end of a minute, behind the second 59, but an instant can be put together that
has one behind any other second. `Instant.IsRegular` says that it has not.
Instants are compared part by part, which is the order of time.

* `Instant.milliseconds` counts the milliseconds since the start of 1970; those
  of a leap second run on past the minute's end.
* `Instant.ofMilliseconds?` finds the instant again.
* `Instant.atOffset?` reads a time of day that is given at an offset from
  universal time. What it finds is regular, like everything that is found.
* A `ClockTime` is an instant that a clock shows.
-/

namespace ChainElection

/-- An instant of universal time. -/
structure Instant where
  date : Date
  hour : Nat
  minute : Nat
  second : Nat
  nano : Nat
  hour_lt : hour < 24
  minute_lt : minute < 60
  second_lt : second < 60
  nano_lt : nano < 2000000000
  deriving DecidableEq

namespace Instant

/-- The start of 1970. -/
def epoch : Instant :=
  ⟨Date.epoch, 0, 0, 0, 0, by decide, by decide, by decide, by decide⟩

instance : Inhabited Instant := ⟨epoch⟩

/-- If the instant lies in a leap second, this comes at the end of a minute. -/
def IsRegular (t : Instant) : Prop := 1000000000 ≤ t.nano → t.second = 59

instance (t : Instant) : Decidable t.IsRegular :=
  inferInstanceAs (Decidable (1000000000 ≤ t.nano → t.second = 59))

/-- The regular instant with the given parts, if there is one. -/
def of? (date : Date) (hour minute second nano : Nat) : Option Instant :=
  if h : hour < 24 ∧ minute < 60 ∧ second < 60 ∧ nano < 2000000000 ∧
      (1000000000 ≤ nano → second = 59) then
    some ⟨date, hour, minute, second, nano, h.1, h.2.1, h.2.2.1, h.2.2.2.1⟩
  else none

/-- The parts in the order in which they are compared. -/
def parts (t : Instant) : List Int :=
  [t.date.year, t.date.month, t.date.day, t.hour, t.minute, t.second, t.nano]

/-- Is one instant earlier than another? -/
def before (s t : Instant) : Bool := decide (s.parts < t.parts)

instance : LE Instant := ⟨fun s t => ¬ t.parts < s.parts⟩

instance : LT Instant := ⟨fun s t => s.parts < t.parts⟩

/-- The milliseconds since the start of 1970. -/
def milliseconds (t : Instant) : Int :=
  (t.date.dayNumber * 86400 + (t.hour * 3600 + t.minute * 60 + t.second : Nat)) * 1000 +
    (t.nano / 1000000 : Nat)

/-- The instant a number of milliseconds after the start of 1970, if the calendar has it. -/
def ofMilliseconds? (ms : Int) : Option Instant := do
  let second := ms / 1000
  let ofDay := (second % 86400).toNat
  let date ← Date.ofDayNumber? (second / 86400)
  of? date (ofDay / 3600) (ofDay / 60 % 60) (ofDay % 60) ((ms % 1000).toNat * 1000000)

/-- The instant at which clocks that run `offset` minutes ahead of universal time show the given
date and time of day. A second of number 60 is a leap second. -/
def atOffset? (date : Date) (hour minute second nano : Nat) (offset : Int) : Option Instant := do
  guard (hour < 24 ∧ minute < 60 ∧ nano < 1000000000)
  let minutes : Int := (hour * 60 + minute : Nat) - offset
  let date ←
    if minutes < 0 then date.previous?
    else if 1440 ≤ minutes then date.next?
    else some date
  let minutes := (minutes % 1440).toNat
  if second = 60 then of? date (minutes / 60) (minutes % 60) 59 (nano + 1000000000)
  else of? date (minutes / 60) (minutes % 60) second nano

/-- The instant cut down to whole milliseconds. -/
def toMillisecond (t : Instant) : Instant :=
  { t with
    nano := t.nano / 1000000 * 1000000
    nano_lt := by have := t.nano_lt; omega }

end Instant

/-- An instant that a clock shows. No clock shows a leap second but at the end of a minute. -/
structure ClockTime where
  instant : Instant
  regular : instant.IsRegular
  deriving DecidableEq

namespace ClockTime

instance : Coe ClockTime Instant := ⟨instant⟩

/-- The start of 1970. -/
def epoch : ClockTime := ⟨.epoch, by decide⟩

instance : Inhabited ClockTime := ⟨epoch⟩

/-- The instant as a clock shows it, if one does. -/
def of? (t : Instant) : Option ClockTime := if h : t.IsRegular then some ⟨t, h⟩ else none

end ClockTime

end ChainElection
