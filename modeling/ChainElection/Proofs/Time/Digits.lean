import Mathlib.Tactic
import ChainElection.Proofs.Text.Numeral
import ChainElection.Time.Read
import ChainElection.Time.Written

/-!
Numbers within written instants.

* `padded_allDigits`, `length_padded`, `value_padded`: what `padded` writes.
* `takeDigits_append`: digits are taken off the front as the number that they
  denote, up to the first character that is none or as many as may be taken.
-/

namespace ChainElection.Instant

/-! ### Digits -/

/-- All characters are digits. -/
def AllDigits (ds : List Char) : Prop := ∀ c ∈ ds, (Numeral.digit? c).isSome = true

/-- The text does not begin with a digit. -/
def Stops (s : List Char) : Prop := ∀ c ∈ s.head?, (Numeral.digit? c).isSome = false

/-- The number that digits denote. -/
def value (ds : List Char) : ℕ := ds.foldl (fun n c => n * 10 + (Numeral.digit? c).getD 0) 0

lemma value_eq_ofDigitChars {ds : List Char} (h : ∀ c ∈ ds, c.isDigit = true) :
    value ds = Nat.ofDigitChars 10 ds 0 := by
  rw [value, Nat.ofDigitChars_eq_foldl]
  refine List.foldl_ext _ _ 0 fun n c hc => ?_
  rw [Numeral.digit?_of_isDigit (h c hc), Option.getD_some, Nat.mul_comm]

/-! ### Numbers with zeros in front -/

lemma isDigit_of_mem_padded {width n : ℕ} {c : Char} (h : c ∈ padded width n) : c.isDigit = true := by
  rcases List.mem_append.mp h with h | h
  · rw [List.eq_of_mem_replicate h]
    rfl
  · exact Nat.isDigit_of_mem_toDigits (by decide) (by decide) h

lemma padded_allDigits (width n : ℕ) : AllDigits (padded width n) := by
  intro c hc
  rw [Numeral.digit?_of_isDigit (isDigit_of_mem_padded hc), Option.isSome_some]

lemma padded_ne_nil (width n : ℕ) : padded width n ≠ [] := by
  intro h
  exact Nat.toDigits_ne_nil (List.append_eq_nil_iff.mp h).2

/-- A number that fits is written in as many digits as are asked for. -/
lemma length_padded {width n : ℕ} (hwidth : 0 < width) (hn : n < 10 ^ width) :
    (padded width n).length = width := by
  have hle : (Numeral.write n).length ≤ width :=
    (Nat.length_toDigits_le_iff (by decide) hwidth).mpr hn
  rw [padded, List.length_append, List.length_replicate]
  omega

/-- A number is denoted by its digits. -/
lemma value_padded (width n : ℕ) : value (padded width n) = n := by
  rw [value_eq_ofDigitChars fun c hc => isDigit_of_mem_padded hc, padded, Nat.ofDigitChars_append,
    Nat.ofDigitChars_replicate_zero, Nat.mul_zero]
  exact Nat.ofDigitChars_ten_toDigits

/-! ### Taking digits off the front -/

lemma takeWhile_stops {s : List Char} (h : Stops s) (k : ℕ) :
    (s.take k).takeWhile (fun c => (Numeral.digit? c).isSome) = [] := by
  cases s with
  | nil => rw [List.take_nil, List.takeWhile_nil]
  | cons c r =>
      have hc := h c rfl
      cases k with
      | zero => rfl
      | succ k => rw [List.take_succ_cons, List.takeWhile_cons_of_neg (by simp [hc])]

/-- Digits are taken off the front as the number that they denote. -/
lemma takeDigits_append {width : ℕ} {ds s : List Char} (hds : AllDigits ds) (hne : ds ≠ [])
    (hwidth : ds.length ≤ width) (hstop : ds.length = width ∨ Stops s) :
    takeDigits width (ds ++ s) = some (value ds, s) := by
  have htake : ((ds ++ s).take width).takeWhile (fun c => (Numeral.digit? c).isSome) = ds := by
    rw [List.take_append, List.take_of_length_le hwidth, List.takeWhile_append_of_pos hds]
    rcases hstop with rfl | hstop
    · rw [Nat.sub_self, List.take_zero, List.takeWhile_nil, List.append_nil]
    · rw [takeWhile_stops hstop, List.append_nil]
  rw [takeDigits, htake]
  simp only [List.isEmpty_iff, hne, if_false, List.drop_left]
  rfl

/-- A number of two digits is taken off the front. -/
lemma takeDigits_padded {width n : ℕ} (hwidth : 0 < width) (hn : n < 10 ^ width) (s : List Char) :
    takeDigits width (padded width n ++ s) = some (n, s) := by
  have hlength := length_padded hwidth hn
  rw [takeDigits_append (padded_allDigits width n) (padded_ne_nil width n) hlength.le (.inl hlength),
    value_padded]

lemma trimStart_padded (width n : ℕ) (s : List Char) :
    Text.trimStart (padded width n ++ s) = padded width n ++ s := by
  refine Text.trimStart_eq_self fun c hc => Numeral.isBlank_of_isDigit ?_
  rw [List.head?_append_of_ne_nil _ (padded_ne_nil width n)] at hc
  exact isDigit_of_mem_padded (List.mem_of_mem_head? hc)

lemma dropWhile_stops {s : List Char} (h : Stops s) :
    s.dropWhile (fun c => (Numeral.digit? c).isSome) = s := by
  cases s with
  | nil => rfl
  | cons c r => rw [List.dropWhile_cons_of_neg (by simp [h c rfl])]

end ChainElection.Instant
