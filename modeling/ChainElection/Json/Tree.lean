import ChainElection.Json.Text

/-!
JSON values.

`Json` is a value as it stands in a text: members of an object in their order
and with repetitions, strings and keys in raw form, numbers as written. A text
that goes wrong somewhere has a tree too: the place is `broken`, and nothing
stands behind it. A reader that walks a tree in order thus meets what it
dislikes in the order of the text, be it a wrong value or the end of sense.

* `Json.isWhole`: nothing is broken.
* `Json.render` writes a value without any blank.
-/

namespace ChainElection

/-- A JSON value as it stands in a text. -/
inductive Json where
  | null
  | bool (b : Bool)
  | number (literal : List UInt8)
  | string (raw : List UInt8)
  | array (items : List Json)
  | object (members : List (List UInt8 × Json))
  | broken
  deriving Inhabited

namespace Json

mutual

/-- Does the value make sense to its end? -/
def isWhole : Json → Bool
  | .broken => false
  | .array items => isWholeItems items
  | .object members => isWholeMembers members
  | _ => true

/-- Do all items make sense to their ends? -/
def isWholeItems : List Json → Bool
  | [] => true
  | j :: r => j.isWhole && isWholeItems r

/-- Do all members make sense to their ends? -/
def isWholeMembers : List (List UInt8 × Json) → Bool
  | [] => true
  | m :: r => m.2.isWhole && isWholeMembers r

end

/-! ### Writing -/

/-- The bytes of the word `null`. -/
def nullWord : List UInt8 := [0x6e, 0x75, 0x6c, 0x6c]

/-- The bytes of the word `true`. -/
def trueWord : List UInt8 := [0x74, 0x72, 0x75, 0x65]

/-- The bytes of the word `false`. -/
def falseWord : List UInt8 := [0x66, 0x61, 0x6c, 0x73, 0x65]

mutual

/-- The bytes of a value, without blanks. -/
def render : Json → List UInt8
  | .null => nullWord
  | .bool true => trueWord
  | .bool false => falseWord
  | .number literal => literal
  | .string raw => quote :: raw ++ [quote]
  | .array items => 0x5b :: renderItems items ++ [0x5d]
  | .object members => 0x7b :: renderMembers members ++ [0x7d]
  | .broken => []

/-- The bytes of items, with commas between them. -/
def renderItems : List Json → List UInt8
  | [] => []
  | [j] => j.render
  | j :: r => j.render ++ 0x2c :: renderItems r

/-- The bytes of members, with commas between them. -/
def renderMembers : List (List UInt8 × Json) → List UInt8
  | [] => []
  | [m] => quote :: m.1 ++ quote :: 0x3a :: m.2.render
  | m :: r => quote :: m.1 ++ quote :: 0x3a :: m.2.render ++ 0x2c :: renderMembers r

end

/-! ### Values of texts and numbers -/

/-- The string of a text. -/
def ofText (s : String) : Json := .string (escape s)

/-- The number of a natural number. -/
def ofNat (n : Nat) : Json := .number (Utf8.encode (Nat.toDigits 10 n))

/-- A value that may be absent. -/
def ofOption {α : Type} (f : α → Json) : Option α → Json
  | none => .null
  | some a => f a

/-- An object whose keys need no escapes. -/
def ofMembers (ms : List (String × Json)) : Json :=
  .object (ms.map fun m => (escape m.1, m.2))

/-- The text of a value, without blanks. -/
def text (j : Json) : String := (Utf8.toString? j.render).getD ""

end Json

end ChainElection
