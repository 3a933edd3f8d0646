import Mathlib.Tactic
import ChainElection.Proofs.Text.Blank
import ChainElection.Text.Numeral

/-!
What the reader of whole numbers accepts.

* `Numeral.Denotes`: an optional plus sign and one or more decimal digits denote
  a number, with any number of zeros in front.
* `Numeral.readNat_eq_ok_iff`: the reader accepts what denotes a number within
  the limit, and nothing else.
-/

namespace ChainElection.Numeral

/-! ### Digits -/

lemma digit?_eq_if (c : Char) :
    digit? c = if c.isDigit = true then some (c.toNat - '0'.toNat) else none := by
  have hdigit : c.isDigit = true ↔ '0' ≤ c ∧ c ≤ '9' := by
    rw [Char.isDigit, Bool.and_eq_true, decide_eq_true_eq, decide_eq_true_eq]
    exact Iff.rfl
  simp only [digit?, hdigit]
  rfl

lemma digit?_of_isDigit {c : Char} (h : c.isDigit = true) :
    digit? c = some (c.toNat - '0'.toNat) := by
  rw [digit?_eq_if, if_pos h]

/-- A digit is no blank. -/
lemma isBlank_of_isDigit {c : Char} (h : c.isDigit = true) : Text.isBlank c = false := by
  rw [Char.isDigit, Bool.and_eq_true, decide_eq_true_eq, decide_eq_true_eq] at h
  have hlow : 48 ≤ c.toNat := h.1
  have hhigh : c.toNat ≤ 57 := h.2
  simp only [Text.isBlank, Bool.or_eq_false_iff, Bool.and_eq_false_iff, decide_eq_false_iff_not,
    beq_eq_false_iff_ne]
  omega

/-! ### Numbers -/

/-- The text denotes the number: one or more decimal digits, with or without a plus sign in front. -/
def Denotes (s : List Char) (n : ℕ) : Prop :=
  ∃ digits : List Char, (s = digits ∨ s = '+' :: digits) ∧ digits ≠ [] ∧
    (∀ c ∈ digits, c.isDigit = true) ∧ Nat.ofDigitChars 10 digits 0 = n

lemma le_ofDigitChars (s : List Char) (acc : ℕ) : acc ≤ Nat.ofDigitChars 10 s acc := by
  induction s generalizing acc with
  | nil => rw [Nat.ofDigitChars_nil]
  | cons c r ih =>
      rw [Nat.ofDigitChars_cons]
      have h := ih (10 * acc + (c.toNat - '0'.toNat))
      omega

/-- Reading goes on to the end if there are only digits and their number is within the limit. -/
lemma scan_eq_ok_iff {limit acc n : ℕ} {excess : Fault} {s : List Char} (hacc : acc ≤ limit) :
    scan limit excess acc s = .ok n ↔
      (∀ c ∈ s, c.isDigit = true) ∧ Nat.ofDigitChars 10 s acc = n ∧ n ≤ limit := by
  induction s generalizing acc with
  | nil =>
      rw [scan, Nat.ofDigitChars_nil, Except.ok.injEq]
      constructor
      · rintro rfl
        exact ⟨fun _ hc => absurd hc List.not_mem_nil, rfl, hacc⟩
      · exact fun h => h.2.1
  | cons c r ih =>
      rw [scan, digit?_eq_if, List.forall_mem_cons, Nat.ofDigitChars_cons, Nat.mul_comm acc 10]
      by_cases hc : c.isDigit = true
      · rw [if_pos hc]
        dsimp only
        by_cases hle : 10 * acc + (c.toNat - '0'.toNat) ≤ limit
        · rw [if_pos hle, ih hle]
          simp only [hc, true_and]
        · rw [if_neg hle]
          constructor
          · intro h
            cases h
          · rintro ⟨-, hn, hlimit⟩
            exact absurd ((le_ofDigitChars r _).trans (hn.trans_le hlimit)) hle
      · rw [if_neg hc]
        constructor
        · intro h
          cases h
        · rintro ⟨⟨hdigit, -⟩, -⟩
          exact absurd hdigit hc

/-- The reader accepts the texts that denote a number within the limit, and no others. -/
theorem readNat_eq_ok_iff {limit n : ℕ} {s : List Char} :
    readNat limit s = .ok n ↔ Denotes s n ∧ n ≤ limit := by
  have hplus : ('+' : Char).isDigit = false := rfl
  rw [Denotes, readNat.eq_def]
  split
  · refine ⟨fun h => (nomatch h), ?_⟩
    rintro ⟨⟨digits, rfl | h, hne, -⟩, -⟩
    · exact absurd rfl hne
    · cases h
  · refine ⟨fun h => (nomatch h), ?_⟩
    rintro ⟨⟨digits, rfl | h, hne, hdigits, -⟩, -⟩
    · exact absurd (hdigits '+' List.mem_cons_self) (by simp [hplus])
    · exact absurd (List.cons.inj h).2.symm hne
  · rename_i r hr
    rw [scan_eq_ok_iff (Nat.zero_le _)]
    constructor
    · rintro ⟨hdigits, hn, hle⟩
      exact ⟨⟨r, .inr rfl, fun h => hr (by rw [h]), hdigits, hn⟩, hle⟩
    · rintro ⟨⟨digits, rfl | h, hne, hdigits, hn⟩, hle⟩
      · exact absurd (hdigits '+' List.mem_cons_self) (by simp [hplus])
      · obtain rfl := (List.cons.inj h).2
        exact ⟨hdigits, hn, hle⟩
  · rename_i hnil _ hnoPlus
    rw [scan_eq_ok_iff (Nat.zero_le _)]
    constructor
    · rintro ⟨hdigits, hn, hle⟩
      exact ⟨⟨s, .inl rfl, hnil, hdigits, hn⟩, hle⟩
    · rintro ⟨⟨digits, rfl | h, hne, hdigits, hn⟩, hle⟩
      · exact ⟨hdigits, hn, hle⟩
      · exact absurd h (hnoPlus digits)

/-- A number is denoted by its digits. -/
lemma denotes_write (n : ℕ) : Denotes (write n) n :=
  ⟨write n, .inl rfl, Nat.toDigits_ne_nil,
    fun _ => Nat.isDigit_of_mem_toDigits (by decide) (by decide), Nat.ofDigitChars_ten_toDigits⟩

/-- What denotes a number consists of digits, but for the sign. -/
lemma Denotes.mem {s : List Char} {n : ℕ} (h : Denotes s n) {c : Char} (hc : c ∈ s) :
    c = '+' ∨ c.isDigit = true := by
  obtain ⟨digits, rfl | rfl, -, hdigits, -⟩ := h
  · exact .inr (hdigits c hc)
  · exact (List.mem_cons.mp hc).imp_right (hdigits c)

/-- A text denotes at most one number. -/
lemma Denotes.unique {s : List Char} {m n : ℕ} (hm : Denotes s m) (hn : Denotes s n) : m = n := by
  have hleft : readNat (max m n) s = .ok m := readNat_eq_ok_iff.mpr ⟨hm, le_max_left m n⟩
  have hright : readNat (max m n) s = .ok n := readNat_eq_ok_iff.mpr ⟨hn, le_max_right m n⟩
  exact Except.ok.inj (hleft.symm.trans hright)

lemma Denotes.ne_nil {s : List Char} {n : ℕ} (h : Denotes s n) : s ≠ [] := by
  obtain ⟨digits, rfl | rfl, hne, -⟩ := h
  · exact hne
  · exact List.cons_ne_nil _ _

/-- There are no blanks around what denotes a number. -/
lemma Denotes.trim_eq {s : List Char} {n : ℕ} (h : Denotes s n) : Text.trim s = s := by
  have hblank : ∀ c ∈ s, Text.isBlank c = false := by
    intro c hc
    rcases h.mem hc with rfl | hdigit
    · rfl
    · exact isBlank_of_isDigit hdigit
  exact Text.trim_eq_self (fun c hc => hblank c (List.mem_of_mem_head? hc))
    fun c hc => hblank c (List.mem_of_mem_getLast? hc)

end ChainElection.Numeral
