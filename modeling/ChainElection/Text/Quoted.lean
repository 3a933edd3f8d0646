import ChainElection.Text.EscapeTable
import ChainElection.Text.Lowercase

/-!
Quoted texts and characters, as they stand in messages and outlines.

A text is put between double quotes, a character between single ones. Inside,
the quote that is in use and the backslash are escaped by a backslash, the
characters NUL, tab, line feed and carriage return have short forms, and a
character without a glyph of its own is shown by its code point in hexadecimal
digits. All else stands for itself.

* `quoteText`, `quoteChar` write the two forms.
-/

namespace ChainElection.Text

/-- Is the character shown by its code point? -/
def isUnshown (c : Char) : Bool := inRuns EscapeTable.unshown c.toNat

/-- The form of a character inside quotes `quote`. -/
def escapeChar (quote c : Char) : List Char :=
  if c = quote || c = '\\' then ['\\', c]
  else if c = '\x00' then ['\\', '0']
  else if c = '\t' then ['\\', 't']
  else if c = '\n' then ['\\', 'n']
  else if c = '\r' then ['\\', 'r']
  else if 0x20 ≤ c.toNat && c.toNat < 0x7f then [c]
  else if isUnshown c then ['\\', 'u', '\x7b'] ++ Nat.toDigits 16 c.toNat ++ ['\x7d']
  else [c]

/-- The text between double quotes. -/
def quoteText (s : String) : String :=
  String.ofList ('"' :: s.toList.flatMap (escapeChar '"') ++ ['"'])

/-- The character between single quotes. -/
def quoteChar (c : Char) : String :=
  String.ofList ('\'' :: escapeChar '\'' c ++ ['\''])

end ChainElection.Text
