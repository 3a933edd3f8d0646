import ChainElection.Json.Number
import ChainElection.Json.Tree

/-!
Reading JSON.

`Json.read` makes a tree of bytes. A reader takes a value off the front and
hands back what stands behind it, or nothing once the text has stopped making
sense. Blanks are the space, the tab, the line feed and the carriage return.
The readers call one another at most as often as the text has bytes, which
`fuel` counts.

* `read` gives the value of a whole text together with what the text holds
  behind it.
-/

namespace ChainElection.Json

/-- Is the byte a blank? -/
def isSpace (b : UInt8) : Bool := b == 0x20 || b == 0x0a || b == 0x09 || b == 0x0d

/-- The bytes without the blanks in front of them. -/
def skipSpace (s : List UInt8) : List UInt8 := s.dropWhile isSpace

/-- Takes a word off the front. -/
def takeWord : List UInt8 → List UInt8 → Option (List UInt8)
  | [], s => some s
  | _ :: _, [] => none
  | w :: ws, b :: r => if b = w then takeWord ws r else none

/-- A value with what stands behind it; nothing does behind a broken one. -/
abbrev Read (α : Type) : Type := α × Option (List UInt8)

/-- The value `v` if its word is at the front. -/
def readWord (word : List UInt8) (v : Json) (s : List UInt8) : Read Json :=
  match takeWord word s with
  | some r => (v, some r)
  | none => (.broken, none)

mutual

/-- Takes a value off the front. -/
def readValue (fuel : Nat) (s : List UInt8) : Read Json :=
  match fuel with
  | 0 => (.broken, none)
  | fuel + 1 =>
    match skipSpace s with
    | [] => (.broken, none)
    | b :: r =>
      if b = 0x6e then readWord nullWord .null (b :: r)
      else if b = 0x74 then readWord trueWord (.bool true) (b :: r)
      else if b = 0x66 then readWord falseWord (.bool false) (b :: r)
      else if b = quote then
        match scan r with
        | some (raw, r) => (.string raw, some r)
        | none => (.broken, none)
      else if b = 0x5b then
        match skipSpace r with
        | 0x5d :: r => (.array [], some r)
        | r =>
          let (items, rest) := readItems fuel r
          (.array items, rest)
      else if b = 0x7b then
        match skipSpace r with
        | 0x7d :: r => (.object [], some r)
        | r =>
          let (members, rest) := readMembers fuel r
          (.object members, rest)
      else
        match Number.scan (b :: r) with
        | some (literal, r) => (.number literal, some r)
        | none => (.broken, none)

/-- Takes items and the bracket behind them off the front; there is at least one. -/
def readItems (fuel : Nat) (s : List UInt8) : Read (List Json) :=
  match fuel with
  | 0 => ([.broken], none)
  | fuel + 1 =>
    match readValue fuel s with
    | (j, none) => ([j], none)
    | (j, some r) =>
      match skipSpace r with
      | 0x2c :: r =>
        let (items, rest) := readItems fuel r
        (j :: items, rest)
      | 0x5d :: r => ([j], some r)
      | _ => ([j, .broken], none)

/-- Takes members and the brace behind them off the front; there is at least one. -/
def readMembers (fuel : Nat) (s : List UInt8) : Read (List (List UInt8 × Json)) :=
  match fuel with
  | 0 => ([([], .broken)], none)
  | fuel + 1 =>
    match skipSpace s with
    | [] => ([([], .broken)], none)
    | b :: r =>
      if b = quote then
        match scan r with
        | none => ([([], .broken)], none)
        | some (key, r) =>
          match skipSpace r with
          | 0x3a :: r =>
            match readValue fuel r with
            | (j, none) => ([(key, j)], none)
            | (j, some r) =>
              match skipSpace r with
              | 0x2c :: r =>
                let (members, rest) := readMembers fuel r
                ((key, j) :: members, rest)
              | 0x7d :: r => ([(key, j)], some r)
              | _ => ([(key, j), ([], .broken)], none)
          | _ => ([(key, .broken)], none)
      else ([([], .broken)], none)

end

/-- The value of a text, and whether the text holds nothing but blanks behind it. -/
def read (s : List UInt8) : Json × Bool :=
  match readValue (2 * s.length + 2) s with
  | (j, some r) => (j, (skipSpace r).isEmpty)
  | (j, none) => (j, false)

end ChainElection.Json
