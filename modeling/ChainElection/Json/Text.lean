import ChainElection.Text.Utf8

/-!
The inside of a JSON string.

Between its quotes a string holds bytes, some of them behind a backslash. The
bytes as they stand are the string's *raw* form. `escape` writes a text raw,
with an escape where one is needed and nowhere else; `unescape` gives back the
bytes that a raw form denotes, and `text?` the text, if they are one.

* `scan` takes a raw form off the front of bytes and finds the closing quote.
-/

namespace ChainElection.Json

/-- The double quote. -/
def quote : UInt8 := 0x22

/-- The backslash. -/
def backslash : UInt8 := 0x5c

/-! ### Writing -/

/-- The value of a hexadecimal digit, as a byte of lower-case text. -/
def hexByte (n : UInt8) : UInt8 := if n < 10 then 48 + n else 87 + n

/-- The raw form of one byte: an escape for a quote, a backslash and a control code. -/
def escapeByte (b : UInt8) : List UInt8 :=
  if b = quote ∨ b = backslash then [backslash, b]
  else if b = 0x08 then [backslash, 0x62]
  else if b = 0x09 then [backslash, 0x74]
  else if b = 0x0a then [backslash, 0x6e]
  else if b = 0x0c then [backslash, 0x66]
  else if b = 0x0d then [backslash, 0x72]
  else if b < 0x20 then [backslash, 0x75, 0x30, 0x30, hexByte (b / 16), hexByte (b % 16)]
  else [b]

/-- The raw form of a text. -/
def escape (s : String) : List UInt8 := (Utf8.ofString s).flatMap escapeByte

/-! ### Reading -/

/-- The value of a hexadecimal digit. -/
def hexDigit? (b : UInt8) : Option Nat :=
  if 48 ≤ b ∧ b ≤ 57 then some (b.toNat - 48)
  else if 97 ≤ b ∧ b ≤ 102 then some (b.toNat - 87)
  else if 65 ≤ b ∧ b ≤ 70 then some (b.toNat - 55)
  else none

/-- The value of four hexadecimal digits. -/
def hex4? (a b c d : UInt8) : Option Nat := do
  let a ← hexDigit? a
  let b ← hexDigit? b
  let c ← hexDigit? c
  let d ← hexDigit? d
  pure (((a * 16 + b) * 16 + c) * 16 + d)

/-- The byte that a letter behind a backslash stands for. -/
def escapedByte? (b : UInt8) : Option UInt8 :=
  if b = quote ∨ b = backslash ∨ b = 0x2f then some b
  else if b = 0x62 then some 0x08
  else if b = 0x66 then some 0x0c
  else if b = 0x6e then some 0x0a
  else if b = 0x72 then some 0x0d
  else if b = 0x74 then some 0x09
  else none

/-- Takes a raw form and the quote behind it off the front: control codes do not belong into it, and
only known escapes do. -/
def scan : List UInt8 → Option (List UInt8 × List UInt8)
  | [] => none
  | c :: r =>
    if c = quote then some ([], r)
    else if c < 0x20 then none
    else if c = backslash then
      match r with
      | [] => none
      | e :: t =>
        if e = 0x75 then
          match t with
          | w :: x :: y :: z :: u =>
            if (hex4? w x y z).isSome then
              (scan u).map fun p => (c :: e :: w :: x :: y :: z :: p.1, p.2)
            else none
          | _ => none
        else if (escapedByte? e).isSome then (scan t).map fun p => (c :: e :: p.1, p.2)
        else none
    else (scan r).map fun p => (c :: p.1, p.2)

/-- The bytes of the code unit `u`, or of the pair that it opens with the escape at the front. A code
unit that is only half of a pair denotes nothing. -/
def unescapeUnit (u : Nat) (r : List UInt8) : Option (List UInt8 × List UInt8) :=
  if u < 0xd800 ∨ 0xe000 ≤ u then some (Utf8.encode [Char.ofNat u], r)
  else if 0xdc00 ≤ u then none
  else
    match r with
    | b :: e :: w :: x :: y :: z :: t =>
      if b = backslash ∧ e = 0x75 then
        match hex4? w x y z with
        | some v =>
          if 0xdc00 ≤ v ∧ v < 0xe000 then
            some (Utf8.encode [Char.ofNat (0x10000 + (u - 0xd800) * 0x400 + (v - 0xdc00))], t)
          else none
        | none => none
      else none
    | _ => none

theorem unescapeUnit_length {u : Nat} {r t bs : List UInt8}
    (h : unescapeUnit u r = some (bs, t)) : t.length ≤ r.length := by
  unfold unescapeUnit at h
  split at h
  · simp only [Option.some.injEq, Prod.mk.injEq] at h; simp [h.2]
  · split at h
    · exact nomatch h
    · split at h
      · split at h
        · split at h
          · split at h
            · simp only [Option.some.injEq, Prod.mk.injEq] at h
              rw [← h.2]
              simp only [List.length_cons]
              omega
            · exact nomatch h
          · exact nomatch h
        · exact nomatch h
      · exact nomatch h

/-- The bytes that a raw form denotes. -/
def unescape (s : List UInt8) : Option (List UInt8) :=
  match s with
  | [] => some []
  | c :: r =>
    if c = backslash then
      match r with
      | [] => none
      | e :: t =>
        if e = 0x75 then
          match t with
          | w :: x :: y :: z :: v =>
            match hex4? w x y z with
            | none => none
            | some u =>
              match _h : unescapeUnit u v with
              | none => none
              | some (bs, k) => (unescape k).map (bs ++ ·)
          | _ => none
        else
          match escapedByte? e with
          | none => none
          | some b => (unescape t).map (b :: ·)
    else (unescape r).map (c :: ·)
termination_by s.length
decreasing_by
  · have := unescapeUnit_length _h
    simp only [List.length_cons]
    omega
  · simp only [List.length_cons]; omega
  · simp only [List.length_cons]; omega

/-- The text that a raw form denotes. -/
def text? (raw : List UInt8) : Option String := (unescape raw).bind Utf8.toString?

end ChainElection.Json
