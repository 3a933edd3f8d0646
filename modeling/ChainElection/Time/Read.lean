import ChainElection.Text.Blank
import ChainElection.Text.Numeral
import ChainElection.Time.Instant

/-!
Reading written instants.

Two grammars are read. Both take `Z`, `z` or a signed offset of hours and
minutes as the zone, and `T`, `t` or a space between date and time of day;
digits beyond the nanosecond are skipped.

* `Instant.readStrict` is RFC 3339: four digits for the year, two for every
  other number, a colon in the offset, nothing around it.
* `Instant.readLenient` also takes numbers with fewer digits, a sign and any
  number of digits for the year, blanks before every number, before every
  separator and at the end, the zone `UTC`, and an offset without its colon.

A reader takes the front off a list of characters and gives what is left.
-/

namespace ChainElection

namespace Instant

/-! ### Numbers and signs -/

/-- Takes between one and `width` digits off the front. -/
def takeDigits (width : Nat) (s : List Char) : Option (Nat × List Char) :=
  let ds := (s.take width).takeWhile fun c => (Numeral.digit? c).isSome
  if ds.isEmpty then none
  else some (ds.foldl (fun n c => n * 10 + (Numeral.digit? c).getD 0) 0, s.drop ds.length)

/-- Takes exactly `width` digits off the front. -/
def takeExactly (width : Nat) (s : List Char) : Option (Nat × List Char) :=
  if ((s.take width).takeWhile fun c => (Numeral.digit? c).isSome).length = width then
    takeDigits width s
  else none

/-- Takes one given character off the front. -/
def takeChar (c : Char) : List Char → Option (List Char)
  | d :: r => if d = c then some r else none
  | [] => none

/-- Takes a point and digits off the front, as nanoseconds; no point means none. -/
def takeFraction : List Char → Option (Nat × List Char)
  | '.' :: r => do
    let (n, r') ← takeDigits 9 r
    pure (n * Nat.pow 10 (9 - (r.length - r'.length)),
      r'.dropWhile fun c => (Numeral.digit? c).isSome)
  | s => some (0, s)

/-- Takes what stands between date and time of day off the front. -/
def takeSeparator : List Char → Option (List Char)
  | c :: r => if c = 'T' ∨ c = 't' ∨ c = ' ' then some r else none
  | [] => none

/-- Takes a zone off the front, as minutes ahead of universal time; `colon` takes off what stands
between the hours and the minutes. -/
def takeZone (colon : List Char → Option (List Char)) (s : List Char) :
    Option (Int × List Char) :=
  match s with
  | [] => none
  | c :: r =>
    if c = 'Z' ∨ c = 'z' then some (0, r)
    else if c = '+' ∨ c = '-' ∨ c = '\u2212' then do
      let (hours, r) ← takeExactly 2 r
      let r ← colon r
      let (minutes, r) ← takeExactly 2 r
      guard (hours < 24 ∧ minutes < 60)
      let offset : Int := (hours * 60 + minutes : Nat)
      pure (if c = '+' then offset else -offset, r)
    else none

/-! ### The strict grammar -/

/-- Reads the strict grammar. -/
def readStrict (s : List Char) : Option Instant := do
  let (year, s) ← takeExactly 4 s
  let s ← takeChar '-' s
  let (month, s) ← takeExactly 2 s
  let s ← takeChar '-' s
  let (day, s) ← takeExactly 2 s
  let s ← takeSeparator s
  let (hour, s) ← takeExactly 2 s
  let s ← takeChar ':' s
  let (minute, s) ← takeExactly 2 s
  let s ← takeChar ':' s
  let (second, s) ← takeExactly 2 s
  let (nano, s) ← takeFraction s
  let (offset, s) ← takeZone (takeChar ':') s
  guard s.isEmpty
  let date ← Date.of? year month day
  atOffset? date hour minute second nano offset

/-! ### The lenient grammar -/

/-- Takes blanks and a number of one or two digits off the front. -/
def takeShort (s : List Char) : Option (Nat × List Char) := takeDigits 2 (Text.trimStart s)

/-- Takes blanks and a given character off the front. -/
def takeCharAfterBlanks (c : Char) (s : List Char) : Option (List Char) :=
  takeChar c (Text.trimStart s)

/-- Takes blanks and a year off the front: up to four digits, or a sign and any number of them. -/
def takeYear (s : List Char) : Option (Int × List Char) :=
  match Text.trimStart s with
  | '-' :: r => (takeDigits r.length r).map fun (n, r) => (-(n : Int), r)
  | '+' :: r => (takeDigits r.length r).map fun (n, r) => ((n : Int), r)
  | r => (takeDigits 4 r).map fun (n, r) => ((n : Int), r)

/-- Takes colons and blanks off the front. -/
def takeColons (s : List Char) : Option (List Char) :=
  some (s.dropWhile fun c => c == ':' || Text.isBlank c)

/-- Takes a zone or `UTC` off the front. -/
def takeLenientZone (s : List Char) : Option (Int × List Char) :=
  if (s.take 3).map Char.toLower = ['u', 't', 'c'] then some (0, s.drop 3)
  else takeZone takeColons s

/-- Reads the lenient grammar. -/
def readLenient (s : List Char) : Option Instant := do
  let (year, s) ← takeYear s
  let s ← takeCharAfterBlanks '-' s
  let (month, s) ← takeShort s
  let s ← takeCharAfterBlanks '-' s
  let (day, s) ← takeShort s
  let s ← takeSeparator s
  let (hour, s) ← takeShort s
  let s ← takeCharAfterBlanks ':' s
  let (minute, s) ← takeShort s
  let s ← takeCharAfterBlanks ':' s
  let (second, s) ← takeShort s
  let (nano, s) ← takeFraction s
  let (offset, s) ← takeLenientZone (Text.trimStart s)
  guard (Text.trimStart s).isEmpty
  let date ← Date.of? year month day
  atOffset? date hour minute second nano offset

end Instant

end ChainElection
