import ChainElection.Text.Utf8

/-!
Percent escapes: a byte written as a percent sign and two hexadecimal digits.

* `Percent.resolve` gives the bytes of a text; a percent sign that no digits
  follow stands for itself.
-/

namespace ChainElection.Percent

/-- The value of a hexadecimal digit. -/
def hexDigit? (c : Char) : Option Nat :=
  if '0' ≤ c ∧ c ≤ '9' then some (c.toNat - 48)
  else if 'a' ≤ c ∧ c ≤ 'f' then some (c.toNat - 87)
  else if 'A' ≤ c ∧ c ≤ 'F' then some (c.toNat - 55)
  else none

/-- The bytes of a text with its escapes resolved. -/
def resolve : List Char → List UInt8
  | [] => []
  | [c] => Utf8.encode [c]
  | [c, d] => Utf8.encode [c, d]
  | c :: d :: e :: r =>
    if c = '%' then
      match hexDigit? d, hexDigit? e with
      | some a, some b => UInt8.ofNat (a * 16 + b) :: resolve r
      | _, _ => Utf8.encode [c] ++ resolve (d :: e :: r)
    else Utf8.encode [c] ++ resolve (d :: e :: r)
termination_by s => s.length

end ChainElection.Percent
