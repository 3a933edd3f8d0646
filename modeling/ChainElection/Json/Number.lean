/-!
JSON numbers.

A number is an optional minus sign, digits without a leading zero, and then
possibly a point with digits and an exponent with digits. Numbers are kept as
they stand; what they are worth is decided by who reads them.

* `scan` takes the longest number off the front of bytes.
* `natural?` gives a number without sign, point and exponent.
* `isFinite` says whether rounding to a double leaves the number finite.
-/

namespace ChainElection.Json.Number

/-- Is the byte a decimal digit? -/
def isDigit (b : UInt8) : Bool := 48 ≤ b && b ≤ 57

/-- Takes one or more digits off the front. -/
def scanDigits (s : List UInt8) : Option (List UInt8 × List UInt8) :=
  let ds := s.takeWhile isDigit
  if ds.isEmpty then none else some (ds, s.dropWhile isDigit)

/-- Takes the digits before the point off the front. -/
def scanWhole (s : List UInt8) : Option (List UInt8 × List UInt8) :=
  match scanDigits s with
  | none => none
  | some (ds, r) => if ds.length ≠ 1 ∧ ds.head? = some 48 then none else some (ds, r)

/-- Takes a point and digits off the front, if there is a point. -/
def scanFraction (s : List UInt8) : Option (List UInt8 × List UInt8) :=
  match s with
  | 0x2e :: r => (scanDigits r).map fun p => (0x2e :: p.1, p.2)
  | _ => some ([], s)

/-- Takes a sign off the front, if there is one. -/
def scanSign (s : List UInt8) : List UInt8 × List UInt8 :=
  match s with
  | b :: r => if b = 0x2b ∨ b = 0x2d then ([b], r) else ([], s)
  | [] => ([], [])

/-- Takes an exponent off the front, if there is one. -/
def scanExponent (s : List UInt8) : Option (List UInt8 × List UInt8) :=
  match s with
  | b :: r =>
    if b = 0x65 ∨ b = 0x45 then
      let (sign, r) := scanSign r
      (scanDigits r).map fun p => (b :: sign ++ p.1, p.2)
    else some ([], s)
  | [] => some ([], s)

/-- Takes a minus sign off the front, if there is one. -/
def scanMinus (s : List UInt8) : List UInt8 × List UInt8 :=
  match s with
  | 0x2d :: r => ([0x2d], r)
  | _ => ([], s)

/-- Takes a number off the front. -/
def scan (s : List UInt8) : Option (List UInt8 × List UInt8) := do
  let (sign, s) := scanMinus s
  let (whole, s) ← scanWhole s
  let (fraction, s) ← scanFraction s
  let (exponent, s) ← scanExponent s
  pure (sign ++ whole ++ fraction ++ exponent, s)

/-- The number that digits denote. -/
def ofDigits (ds : List UInt8) : Nat := ds.foldl (fun n d => n * 10 + (d.toNat - 48)) 0

/-- The value of a number that is digits only. -/
def natural? (literal : List UInt8) : Option Nat :=
  if literal.all isDigit then some (ofDigits literal) else none

/-- The bytes from which on numbers round to no double. -/
def tooLarge : Nat := (1 <<< 1024) - (1 <<< 970)

/-- The exponent that bytes behind the fraction stand for. -/
def exponentOf : List UInt8 → Int
  | _ :: 0x2d :: ds => -(ofDigits ds : Int)
  | _ :: 0x2b :: ds => ofDigits ds
  | _ :: ds => ofDigits ds
  | [] => 0

/-- Does a number stay finite when it is rounded to a double? -/
def isFinite (literal : List UInt8) : Bool :=
  let s := literal.dropWhile (· == 0x2d)
  let whole := s.takeWhile isDigit
  let s := s.dropWhile isDigit
  let fraction := ((s.takeWhile (· == 0x2e)) ++ (s.dropWhile (· == 0x2e)).takeWhile isDigit).drop 1
  let exponent := exponentOf ((s.dropWhile (· == 0x2e)).dropWhile isDigit)
  let ds := (whole ++ fraction).dropWhile (· == 48)
  let scale := exponent - fraction.length
  if ds.isEmpty then true
  else if 400 < ds.length + scale then false
  else if ds.length + scale < 300 then true
  else if 0 ≤ scale then ofDigits ds * Nat.pow 10 scale.toNat < tooLarge
  else ofDigits ds < tooLarge * Nat.pow 10 (-scale).toNat

end ChainElection.Json.Number
