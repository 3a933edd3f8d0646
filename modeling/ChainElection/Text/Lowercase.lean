import ChainElection.Text.CaseTable

/-!
Lower-casing a text.

Every character is replaced by its lower-case form, with two characters that
need more than a table:

* the capital I with a dot above becomes two characters, an `i` and a dot;
* a capital sigma becomes `ς` at the end of a word and `σ` elsewhere. It stands
  at the end of a word if the nearest character before it that is not
  case-ignorable is cased, and the nearest such character after it is not.

`lowercase_of_ascii` says that on ASCII text nothing of this shows.
-/

namespace ChainElection.Text

/-- Does a code point lie in one of the runs? -/
def inRuns (runs : Array (Nat × Nat)) (n : Nat) : Bool :=
  runs.any fun r => r.1 ≤ n && n ≤ r.2

/-- Has the character the property `Cased`? -/
def isCased (c : Char) : Bool := inRuns CaseTable.cased c.toNat

/-- Has the character the property `Case_Ignorable`? -/
def isCaseIgnorable (c : Char) : Bool := inRuns CaseTable.ignorable c.toNat

/-- The lower-case form of one character, without regard to what stands around it. -/
def lowerChar (c : Char) : List Char :=
  if c.toNat < 0x80 then [c.toLower]
  else if c.toNat = 0x130 then ['i', '\u0307']
  else
    let n := c.toNat
    match CaseTable.lowered.find? fun r => r.1 ≤ n && n ≤ r.2.1 && (n - r.1) % r.2.2.1 == 0 with
    | some r => [Char.ofNat (n + r.2.2.2).toNat]
    | none => [c]

/-- Is the first character that is not case-ignorable a cased one? -/
def meetsCased (s : List Char) : Bool :=
  match s.dropWhile isCaseIgnorable with
  | [] => false
  | c :: _ => isCased c

/-- The lower-case form of a capital sigma between what stands before it (nearest first) and
after it. -/
def lowerSigma (before after : List Char) : Char :=
  if meetsCased before && !meetsCased after then 'ς' else 'σ'

/-- Lowers a text; `before` is what has been read already, nearest first. -/
def lowerFrom (before : List Char) : List Char → List Char
  | [] => []
  | c :: r =>
    (if c = 'Σ' then [lowerSigma before r] else lowerChar c) ++ lowerFrom (c :: before) r

/-- The text in lower case. -/
def lowercase (s : List Char) : List Char := lowerFrom [] s

/-- On ASCII text lower-casing is done letter by letter. -/
theorem lowercase_of_ascii {s : List Char} (h : ∀ c ∈ s, c.toNat < 0x80) :
    lowercase s = s.map Char.toLower := by
  suffices ∀ before, lowerFrom before s = s.map Char.toLower from this []
  induction s with
  | nil => intro; rfl
  | cons c r ih =>
    intro before
    have hc : c.toNat < 0x80 := h c (by simp)
    have hs : c ≠ 'Σ' := by
      rintro rfl
      exact absurd hc (by decide)
    simp [lowerFrom, hs, lowerChar, hc, ih (fun d hd => h d (by simp [hd]))]

end ChainElection.Text
