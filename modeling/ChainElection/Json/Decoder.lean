import ChainElection.Json.Reader

/-!
Decoding JSON values.

A decoder turns a value into something typed, or says which of two things is
wrong: the text is no JSON (`grammar`), or it is JSON of the wrong shape
(`shape`). It walks the value in the order of the text and reports what it
meets first. A record is accepted as an object, whose unknown members are
skipped and whose known members may not be repeated, and as an array of its
fields in order.

* `foldMembers`, `fill`, `skip` decode an object member by member.
* `next`, `nothingLeft` decode an array place by place.
* `tagged` finds the member that says which alternative an object is.
-/

namespace ChainElection.Json

/-- What is wrong with a text: it is no JSON, or it is JSON of another shape. -/
inductive Fault where
  | grammar
  | shape
  deriving DecidableEq, Repr

/-- A way to turn a value into something typed. -/
abbrev Decoder (α : Type) : Type := Json → Except Fault α

/-! ### Single values -/

/-- The fault of a value of the wrong kind. A string or number has to make sense by itself before its
kind is looked at. -/
def mismatch : Json → Fault
  | .broken => .grammar
  | .string raw => if (text? raw).isSome then .shape else .grammar
  | .number literal => if Number.isFinite literal then .shape else .grammar
  | _ => .shape

/-- Decodes a text. -/
def asText : Decoder String
  | .string raw =>
    match text? raw with
    | some s => .ok s
    | none => .error .grammar
  | j => .error (mismatch j)

/-- Decodes a truth value. -/
def asBool : Decoder Bool
  | .bool b => .ok b
  | j => .error (mismatch j)

/-- Decodes a natural number up to a limit. -/
def asNatural (limit : Nat) : Decoder Nat
  | .number literal =>
    match Number.natural? literal with
    | some n => if n ≤ limit then .ok n else .error (mismatch (.number literal))
    | none => .error (mismatch (.number literal))
  | j => .error (mismatch j)

/-- Decodes a text that something can be read from. -/
def asParsed {α : Type} (parse : String → Option α) : Decoder α := fun j =>
  match asText j with
  | .error e => .error e
  | .ok s =>
    match parse s with
    | some a => .ok a
    | none => .error .shape

/-- Decodes a value that may be `null`. -/
def asOption {α : Type} (d : Decoder α) : Decoder (Option α)
  | .null => .ok none
  | j => (d j).map some

/-- Decodes items one after the other. -/
def items {α : Type} (d : Decoder α) : List Json → Except Fault (List α)
  | [] => .ok []
  | j :: r =>
    match d j with
    | .error e => .error e
    | .ok a => (items d r).map (a :: ·)

/-- Decodes an array of like values. -/
def asList {α : Type} (d : Decoder α) : Decoder (List α)
  | .array js => items d js
  | j => .error (mismatch j)

/-! ### Objects -/

/-- Walks the members of an object in order. -/
def foldMembers {σ : Type} (step : String → Json → σ → Except Fault σ) :
    σ → List (List UInt8 × Json) → Except Fault σ
  | s, [] => .ok s
  | s, (raw, j) :: r =>
    match text? raw with
    | none => .error .grammar
    | some key =>
      match step key j s with
      | .error e => .error e
      | .ok s => foldMembers step s r

/-- Passes over the value of an unknown member. -/
def skip {σ : Type} (j : Json) (s : σ) : Except Fault σ :=
  if j.isWhole then .ok s else .error .grammar

/-- Decodes the value of a member that may not have been there before. -/
def fill {α : Type} (d : Decoder α) (slot : Option α) (j : Json) : Except Fault (Option α) :=
  if slot.isSome then .error .shape else (d j).map some

/-- The value of a member that has to be there. -/
def present {α : Type} : Option α → Except Fault α
  | some a => .ok a
  | none => .error .shape

/-! ### Arrays as records -/

/-- Decodes the value at the front, which has to be there. -/
def next {α : Type} (d : Decoder α) : List Json → Except Fault (α × List Json)
  | [] => .error .shape
  | j :: r => (d j).map fun a => (a, r)

/-- Decodes the value at the front, if there is one. -/
def nextOr {α : Type} (d : Decoder α) (default : α) : List Json → Except Fault (α × List Json)
  | [] => .ok (default, [])
  | j :: r => (d j).map fun a => (a, r)

/-- Nothing may be left. -/
def nothingLeft : List Json → Except Fault Unit
  | [] => .ok ()
  | _ => .error .grammar

/-! ### Alternatives -/

mutual

/-- Can the value be kept for later? Its texts have to make sense, its numbers to be finite, and
arrays and objects are nested at most `depth` deep. -/
def isStorable (depth : Nat) : Json → Bool
  | .broken => false
  | .string raw => (text? raw).isSome
  | .number literal => Number.isFinite literal
  | .array js =>
    match depth with
    | 0 => false
    | depth + 1 => areStorable depth js
  | .object ms =>
    match depth with
    | 0 => false
    | depth + 1 => areStorableMembers depth ms
  | _ => true

/-- Can all items be kept for later? -/
def areStorable (depth : Nat) : List Json → Bool
  | [] => true
  | j :: r => isStorable depth j && areStorable depth r

/-- Can all members be kept for later? -/
def areStorableMembers (depth : Nat) : List (List UInt8 × Json) → Bool
  | [] => true
  | m :: r => (text? m.1).isSome && isStorable depth m.2 && areStorableMembers depth r

end

/-- How deep a value that is kept for later may be nested. -/
def storableDepth : Nat := 127

/-- Is the member's key the given one? -/
def hasKey (key : String) (m : List UInt8 × Json) : Bool := text? m.1 == some key

/-- Splits a value into its tag and the rest: the tag is the member of that name or the first item.
The tag may come after other members, so the whole value is kept first. -/
def tagged (tag : String) (j : Json) : Except Fault (String × Json) :=
  if isStorable storableDepth j then
    match j with
    | .object ms =>
      match ms.filter (hasKey tag) with
      | [m] => (asText m.2).map fun t => (t, .object (ms.filter fun m => !hasKey tag m))
      | _ => .error .shape
    | .array (j :: r) => (asText j).map fun t => (t, .array r)
    | j => .error (mismatch j)
  else .error .grammar

/-! ### Whole texts -/

/-- Decodes a text, which may hold nothing but the value. -/
def decode {α : Type} (d : Decoder α) (s : List UInt8) : Except Fault α :=
  let (j, atEnd) := read s
  match d j with
  | .error e => .error e
  | .ok a => if atEnd then .ok a else .error .grammar

/-- Decodes a text, which may hold nothing but the value. -/
def decodeText {α : Type} (d : Decoder α) (s : String) : Except Fault α :=
  decode d (Utf8.ofString s)

end ChainElection.Json
