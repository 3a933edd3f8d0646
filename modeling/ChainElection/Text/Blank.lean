/-!
White space at the ends of a text.

A *blank* is a character with the Unicode property `White_Space`; no other
character counts, in particular neither the zero width space nor the byte
order mark. Texts are cut as lists of characters, so that the laws below are
facts about lists.

* `trimStart`, `trimEnd`, `trim` cut blanks from the front, the back and both
  ends.
* `trimStart_append_of_all` and its companion: blanks around a text are never
  seen by a reader that trims.
* `splitOnce` cuts a text at the first place where a character stands, and
  `splitOnce_eq_some` says that nothing but that one character is lost.
-/

namespace ChainElection.Text

/-! ### Blanks -/

/-- The characters with the Unicode property `White_Space`. -/
def isBlank (c : Char) : Bool :=
  let n := c.toNat
  (0x09 ≤ n && n ≤ 0x0d) || n == 0x20 || n == 0x85 || n == 0xa0 || n == 0x1680 ||
    (0x2000 ≤ n && n ≤ 0x200a) || n == 0x2028 || n == 0x2029 || n == 0x202f ||
    n == 0x205f || n == 0x3000

/-- The text without the blanks in front of it. -/
def trimStart (s : List Char) : List Char := s.dropWhile isBlank

/-- The text without the blanks behind it. -/
def trimEnd (s : List Char) : List Char := (s.reverse.dropWhile isBlank).reverse

/-- The text without the blanks around it. -/
def trim (s : List Char) : List Char := trimEnd (trimStart s)

/-- The text without the blanks around it. -/
def trimmed (s : String) : String := String.ofList (trim s.toList)

/-- Is there nothing but blanks? -/
def isAllBlank (s : String) : Bool := s.toList.all isBlank

theorem trimStart_append_of_all {b : List Char} (h : b.all isBlank = true) (s : List Char) :
    trimStart (b ++ s) = trimStart s := by
  induction b with
  | nil => rfl
  | cons c r ih =>
    simp only [List.all_cons, Bool.and_eq_true] at h
    simp [trimStart, h.1]
    exact ih h.2

theorem trimEnd_append_of_all {b : List Char} (h : b.all isBlank = true) (s : List Char) :
    trimEnd (s ++ b) = trimEnd s := by
  have h' : b.reverse.all isBlank = true := by simpa using h
  have := trimStart_append_of_all h' s.reverse
  simp only [trimStart] at this
  simp [trimEnd, this]

/-! ### Cutting at a character -/

/-- The parts before and after the first `c`, or nothing if there is none. -/
def splitOnce (c : Char) : List Char → Option (List Char × List Char)
  | [] => none
  | d :: r => if d = c then some ([], r) else (splitOnce c r).map fun p => (d :: p.1, p.2)

/-- The parts between the `c`s; always one more than there are `c`s. -/
def splitOn (c : Char) : List Char → List (List Char)
  | [] => [[]]
  | d :: r =>
    if d = c then [] :: splitOn c r
    else match splitOn c r with
      | [] => [[d]]
      | p :: ps => (d :: p) :: ps

theorem splitOnce_eq_some {c : Char} {s a b : List Char} (h : splitOnce c s = some (a, b)) :
    s = a ++ c :: b ∧ c ∉ a := by
  induction s generalizing a with
  | nil => simp [splitOnce] at h
  | cons d r ih =>
    by_cases hd : d = c
    · simp only [splitOnce, hd, if_true, Option.some.injEq, Prod.mk.injEq] at h
      obtain ⟨rfl, rfl⟩ := h
      simp [hd]
    · simp only [splitOnce, hd, if_false, Option.map_eq_some_iff, Prod.mk.injEq] at h
      obtain ⟨⟨x, y⟩, hxy, rfl, rfl⟩ := h
      obtain ⟨rfl, hc⟩ := ih hxy
      exact ⟨rfl, by simp [hc, Ne.symm hd]⟩

theorem splitOn_ne_nil (c : Char) (s : List Char) : splitOn c s ≠ [] := by
  cases s with
  | nil => simp [splitOn]
  | cons d r =>
    by_cases h : d = c
    · simp [splitOn, h]
    · simp only [splitOn, h, if_false]
      split <;> simp

/-- There is one part more than there are separators. -/
theorem length_splitOn (c : Char) (s : List Char) :
    (splitOn c s).length = s.count c + 1 := by
  induction s with
  | nil => rfl
  | cons d r ih =>
    by_cases h : d = c
    · simp [splitOn, h, ih]
    · have hne := splitOn_ne_nil c r
      simp only [splitOn, h, if_false]
      cases hr : splitOn c r with
      | nil => exact absurd hr hne
      | cons p ps => simp [hr] at ih; simp [ih, h]

/-- The text without the slashes behind it. -/
def trimSlashes (s : String) : String :=
  String.ofList (s.toList.reverse.dropWhile (· == '/')).reverse

end ChainElection.Text
