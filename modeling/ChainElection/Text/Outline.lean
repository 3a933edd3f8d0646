/-!
Outlines: the structure of a value as a text, for people to look at.

An outline is an atom, a list, a group of values under a name, or a record of
named fields. It is written in one line, or spread over lines that are indented
by four spaces a level, with a comma behind every part.
-/

namespace ChainElection

/-- The structure of a value. -/
inductive Outline where
  | atom (text : String)
  | list (parts : List Outline)
  | group (name : String) (parts : List Outline)
  | record (name : String) (fields : List (String × Outline))
  deriving Inhabited

namespace Outline

/-- The outline of a number. -/
def ofNat (n : Nat) : Outline := .atom (String.ofList (Nat.toDigits 10 n))

/-- The outline of bytes. -/
def ofBytes (bs : List UInt8) : Outline := .list (bs.map fun b => ofNat b.toNat)

/-- The outline of a value that may be absent. -/
def ofOption {α : Type} (f : α → Outline) : Option α → Outline
  | none => .atom "None"
  | some a => .group "Some" [f a]

mutual

/-- The outline in one line. -/
def line : Outline → String
  | .atom text => text
  | .list parts => "[" ++ lineParts parts ++ "]"
  | .group name parts => name ++ "(" ++ lineParts parts ++ ")"
  | .record name fields => name ++ " \x7b " ++ lineFields fields ++ " \x7d"

/-- Parts in one line, with commas between them. -/
def lineParts : List Outline → String
  | [] => ""
  | [o] => o.line
  | o :: r => o.line ++ ", " ++ lineParts r

/-- Fields in one line, with commas between them. -/
def lineFields : List (String × Outline) → String
  | [] => ""
  | [f] => f.1 ++ ": " ++ f.2.line
  | f :: r => f.1 ++ ": " ++ f.2.line ++ ", " ++ lineFields r

end

mutual

/-- The outline over lines; all but the first start with `indent`. -/
def spread (indent : String) : Outline → String
  | .atom text => text
  | .list [] => "[]"
  | .list parts => "[\n" ++ spreadParts (indent ++ "    ") parts ++ indent ++ "]"
  | .group name parts => name ++ "(\n" ++ spreadParts (indent ++ "    ") parts ++ indent ++ ")"
  | .record name fields =>
    name ++ " \x7b\n" ++ spreadFields (indent ++ "    ") fields ++ indent ++ "\x7d"

/-- Parts over lines that start with `indent`. -/
def spreadParts (indent : String) : List Outline → String
  | [] => ""
  | o :: r => indent ++ o.spread indent ++ ",\n" ++ spreadParts indent r

/-- Fields over lines that start with `indent`. -/
def spreadFields (indent : String) : List (String × Outline) → String
  | [] => ""
  | f :: r => indent ++ f.1 ++ ": " ++ f.2.spread indent ++ ",\n" ++ spreadFields indent r

end

/-- The outline over lines. -/
def pretty (o : Outline) : String := o.spread ""

end Outline

end ChainElection
