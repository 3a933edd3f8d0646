/-!
Whole numbers in decimal digits.

`readNat limit` reads an optional plus sign and one or more digits, leading
zeros allowed, and refuses what lies above `limit`. The digits are judged from
left to right, so of a stray character and a number that has grown too large
the one that comes first is reported. `readInt` does the same for numbers with
a sign between two limits.

* `write` gives the digits without leading zeros.
-/

namespace ChainElection.Numeral

/-- Why a text is not a number in range. -/
inductive Fault where
  | empty
  | strayCharacter
  | tooLarge
  | tooSmall
  deriving DecidableEq, Repr

/-- What is said of the fault. -/
def Fault.message : Fault → String
  | .empty => "cannot parse integer from empty string"
  | .strayCharacter => "invalid digit found in string"
  | .tooLarge => "number too large to fit in target type"
  | .tooSmall => "number too small to fit in target type"

/-- The largest number of 64 bits. -/
def max64 : Nat := UInt64.size - 1

/-- The largest number of 32 bits. -/
def max32 : Nat := UInt32.size - 1

/-- The largest number of 16 bits. -/
def max16 : Nat := UInt16.size - 1

/-- The value of a decimal digit. -/
def digit? (c : Char) : Option Nat :=
  if '0' ≤ c ∧ c ≤ '9' then some (c.toNat - 48) else none

/-- The decimal digit of a value below ten. -/
def digitChar (n : Nat) : Char := Char.ofNat (48 + n)

/-- The digits of a number, without leading zeros. -/
def write (n : Nat) : List Char := Nat.toDigits 10 n

/-- Goes on reading a number of which `acc` has been read, with `excess` as the fault of a number
above the limit. -/
def scan (limit : Nat) (excess : Fault) (acc : Nat) : List Char → Except Fault Nat
  | [] => .ok acc
  | c :: r =>
    match digit? c with
    | none => .error .strayCharacter
    | some d =>
      if acc * 10 + d ≤ limit then scan limit excess (acc * 10 + d) r else .error excess

/-- Reads a number from `0` to `limit`. -/
def readNat (limit : Nat) : List Char → Except Fault Nat
  | [] => .error .empty
  | ['+'] => .error .strayCharacter
  | '+' :: r => scan limit .tooLarge 0 r
  | s => scan limit .tooLarge 0 s

/-- Reads a number from `-low` to `high`. -/
def readInt (low high : Nat) : List Char → Except Fault Int
  | [] => .error .empty
  | ['+'] => .error .strayCharacter
  | ['-'] => .error .strayCharacter
  | '-' :: r => (scan low .tooSmall 0 r).map fun n => -(n : Int)
  | '+' :: r => (scan high .tooLarge 0 r).map fun n => (n : Int)
  | s => (scan high .tooLarge 0 s).map fun n => (n : Int)

/-- Reads a number of 64 bits. -/
def read64 (s : String) : Except Fault UInt64 :=
  (readNat max64 s.toList).map UInt64.ofNat

end ChainElection.Numeral
