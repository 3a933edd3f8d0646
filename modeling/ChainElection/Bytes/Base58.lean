import ChainElection.Bytes.Basic
import ChainElection.Text.Quoted
import ChainElection.Text.Utf8

/-!
Base58: bytes as a number in base 58, with an alphabet of digits and letters
that cannot be mistaken for one another.

Zero bytes in front would be lost in a number, so each of them is written as
the digit `1`, which stands for zero; a text therefore has one spelling only.
Reading judges the bytes of a text from left to right and names the first that
is no digit.
-/

namespace ChainElection.Base58

/-- Why a text is not base58. -/
inductive Fault where
  | strayCharacter (c : Char) (place : Nat)
  | nonAscii (place : Nat)
  deriving DecidableEq, Repr

/-- What is said of the fault. -/
def Fault.message : Fault → String
  | .strayCharacter c i =>
    s!"provided string contained invalid character {Text.quoteChar c} at byte {i}"
  | .nonAscii i => s!"provided string contained non-ascii character starting at byte {i}"

/-- The digits, in order of their values. -/
def alphabet : List Char :=
  "123456789ABCDEFGHJKLMNPQRSTUVWXYZabcdefghijkmnopqrstuvwxyz".toList

/-- The digit of a value below 58. -/
def digitChar (n : Nat) : Char := alphabet.getD n '1'

/-- The value of a digit. -/
def digit? (c : Char) : Option Nat := alphabet.findIdx? (· == c)

/-- The number that bytes denote, the most significant first. -/
def number (bs : List UInt8) : Nat := Positional.ofDigits 254 (bs.map UInt8.toNat)

/-- The bytes of a number, the most significant first. -/
def bytes (n : Nat) : List UInt8 := (Positional.digits 254 n).map UInt8.ofNat

/-- The digits of bytes. -/
def encode (bs : List UInt8) : List Char :=
  List.replicate (bs.takeWhile (· == 0)).length '1' ++
    (Positional.digits 56 (number bs)).map digitChar

/-- The digits of bytes, as a text. -/
def text (bs : List UInt8) : String := String.ofList (encode bs)

/-- The values of the digits of a text of which `place` bytes stand before it. -/
def values (place : Nat) : List UInt8 → Except Fault (List Nat)
  | [] => .ok []
  | b :: r =>
    if b < 0x80 then
      match digit? (Char.ofNat b.toNat) with
      | some d => (values (place + 1) r).map (d :: ·)
      | none => .error (.strayCharacter (Char.ofNat b.toNat) place)
    else .error (.nonAscii place)

/-- The bytes that digits of the given values denote. -/
def ofValues (ds : List Nat) : List UInt8 :=
  List.replicate (ds.takeWhile (· == 0)).length 0 ++ bytes (Positional.ofDigits 56 ds)

/-- The bytes that a text denotes. -/
def read (s : String) : Except Fault (List UInt8) :=
  (values 0 (Utf8.ofString s)).map ofValues

end ChainElection.Base58
