import Mathlib.Data.List.Lex
import Mathlib.Tactic
import ChainElection.Proofs.Text.Utf8
import ChainElection.Proofs.Time.Stored

/-!
The order of written instants is the order of time.

* `Instant.codes_lt_iff`: numbers with equally many digits are ordered as their
  digits are. `Instant.columns_lt_iff`: so are lists of numbers, each of them in
  a column of its own.
* `Instant.shownParts_lt_iff`: the parts that a row shows of regular instants are
  ordered as the instants are that are read back from it, leap seconds included.
* `Instant.rowText_lt_iff`: so are the bytes of the texts.
-/

namespace ChainElection

/-- Lists whose front parts have the same length are compared there first. -/
lemma append_lt_append_iff {a b c d : List ℕ} (h : a.length = b.length) :
    a ++ c < b ++ d ↔ a < b ∨ a = b ∧ c < d := by
  induction a generalizing b with
  | nil =>
      obtain rfl := List.length_eq_zero_iff.mp h.symm
      simp
  | cons x a ih =>
      cases b with
      | nil => cases h
      | cons y b =>
          rw [List.cons_append, List.cons_append, List.cons_lt_cons_iff, List.cons_lt_cons_iff,
            ih (Nat.succ.inj h), List.cons.injEq]
          tauto

namespace Instant

/-! ### Digits -/

/-- The code points of a text. -/
def codes (s : List Char) : List ℕ := s.map Char.toNat

lemma codes_append (s t : List Char) : codes (s ++ t) = codes s ++ codes t := List.map_append

/-- A digit is as far behind the first one as its value says. -/
lemma exists_digit {c : Char} (h : (Numeral.digit? c).isSome = true) :
    ∃ d < 10, Numeral.digit? c = some d ∧ c.toNat = 48 + d := by
  rw [Numeral.digit?] at h ⊢
  split at h
  · rename_i hc
    have hlow : 48 ≤ c.toNat := hc.1
    have hhigh : c.toNat ≤ 57 := hc.2
    exact ⟨c.toNat - 48, by omega, if_pos hc, by omega⟩
  · cases h

lemma value_cons (c : Char) (ds : List Char) :
    value (c :: ds) = (Numeral.digit? c).getD 0 * 10 ^ ds.length + value ds := by
  have hfold (ds : List Char) (n : ℕ) :
      ds.foldl (fun n c => n * 10 + (Numeral.digit? c).getD 0) n = n * 10 ^ ds.length + value ds := by
    induction ds generalizing n with
    | nil => simp [value]
    | cons d ds ih =>
        rw [value, List.foldl_cons, List.foldl_cons, ih, ih, List.length_cons, pow_succ]
        ring
  rw [value, List.foldl_cons, hfold, Nat.zero_mul, Nat.zero_add]

lemma value_lt {ds : List Char} (h : AllDigits ds) : value ds < 10 ^ ds.length := by
  induction ds with
  | nil => exact Nat.one_pos
  | cons c ds ih =>
      obtain ⟨d, hd, hdigit, -⟩ := exists_digit (h c List.mem_cons_self)
      have hrest : value ds < 10 ^ ds.length := ih fun x hx => h x (List.mem_cons_of_mem c hx)
      calc value (c :: ds) = d * 10 ^ ds.length + value ds := by rw [value_cons, hdigit, Option.getD_some]
        _ < (d + 1) * 10 ^ ds.length := by rw [Nat.succ_mul]; omega
        _ ≤ 10 * 10 ^ ds.length := Nat.mul_le_mul_right _ hd
        _ = 10 ^ (c :: ds).length := by rw [List.length_cons, pow_succ, Nat.mul_comm]

/-- Numbers with equally many digits are ordered as their digits are. -/
lemma codes_lt_iff {ds es : List Char} (hds : AllDigits ds) (hes : AllDigits es)
    (hlength : ds.length = es.length) : codes ds < codes es ↔ value ds < value es := by
  induction ds generalizing es with
  | nil =>
      obtain rfl := List.length_eq_zero_iff.mp hlength.symm
      simp
  | cons c ds ih =>
      cases es with
      | nil => cases hlength
      | cons e es =>
          have hrest : ds.length = es.length := Nat.succ.inj hlength
          have hds' : AllDigits ds := fun x hx => hds x (List.mem_cons_of_mem c hx)
          have hes' : AllDigits es := fun x hx => hes x (List.mem_cons_of_mem e hx)
          obtain ⟨d, -, hd, hc⟩ := exists_digit (hds c List.mem_cons_self)
          obtain ⟨d', -, hd', he⟩ := exists_digit (hes e List.mem_cons_self)
          have hvalue := value_lt hds'
          have hvalue' := value_lt hes'
          rw [codes, codes, List.map_cons, List.map_cons, List.cons_lt_cons_iff, ← codes, ← codes,
            ih hds' hes' hrest, value_cons, value_cons, hd, hd', hc, he, Option.getD_some,
            Option.getD_some, hrest]
          rw [hrest] at hvalue
          -- The first digit decides, as what follows it is worth less than one of it.
          rcases Nat.lt_trichotomy d d' with hlt | rfl | hgt
          · have hstep : (d + 1) * 10 ^ es.length ≤ d' * 10 ^ es.length := Nat.mul_le_mul_right _ hlt
            rw [Nat.succ_mul] at hstep
            exact iff_of_true (.inl (by omega)) (by omega)
          · simp
          · have hstep : (d' + 1) * 10 ^ es.length ≤ d * 10 ^ es.length := Nat.mul_le_mul_right _ hgt
            rw [Nat.succ_mul] at hstep
            exact iff_of_false (by omega) (by omega)

/-! ### Columns -/

/-- Numbers one after the other, each in the width of its column and with the column's mark behind
it. -/
def columns : List (ℕ × Char) → List ℕ → List Char
  | (width, mark) :: form, n :: ns => padded width n ++ mark :: columns form ns
  | _, _ => []

/-- Each number fits into its column. -/
def FitIn : List (ℕ × Char) → List ℕ → Prop :=
  List.Forall₂ fun column n => 0 < column.1 ∧ n < 10 ^ column.1

/-- Numbers in columns are ordered as their texts are. -/
theorem columns_lt_iff {form : List (ℕ × Char)} {ns ms : List ℕ} (hns : FitIn form ns)
    (hms : FitIn form ms) : codes (columns form ns) < codes (columns form ms) ↔ ns < ms := by
  induction form generalizing ns ms with
  | nil =>
      cases hns
      cases hms
      exact iff_of_false (List.lt_irrefl _) (List.lt_irrefl _)
  | cons column form ih =>
      obtain ⟨width, mark⟩ := column
      obtain ⟨n, ns, ⟨hwidth, hn⟩, hns', rfl⟩ := List.forall₂_cons_left_iff.mp hns
      obtain ⟨m, ms, ⟨-, hm⟩, hms', rfl⟩ := List.forall₂_cons_left_iff.mp hms
      have hlength : (padded width n).length = (padded width m).length := by
        rw [length_padded hwidth hn, length_padded hwidth hm]
      have hlt : codes (padded width n) < codes (padded width m) ↔ n < m := by
        rw [codes_lt_iff (padded_allDigits width n) (padded_allDigits width m) hlength, value_padded,
          value_padded]
      have heq : codes (padded width n) = codes (padded width m) ↔ n = m := by
        refine ⟨fun h => ?_, fun h => h ▸ rfl⟩
        have hpadded := List.map_injective_iff.mpr (fun _ _ => Char.toNat_inj.mp) h
        rw [← value_padded width n, hpadded, value_padded]
      have hcodes : (codes (padded width n)).length = (codes (padded width m)).length := by
        rw [codes, codes, List.length_map, List.length_map, hlength]
      have hmark (s : List Char) : codes (mark :: s) = mark.toNat :: codes s := rfl
      rw [columns, columns, codes_append, codes_append, append_lt_append_iff hcodes, hlt, heq, hmark,
        hmark, List.cons_lt_cons_iff, List.cons_lt_cons_iff, ih hns' hms']
      simp

/-- Digits and marks of one byte make up a text of single bytes. -/
lemma ascii_columns {form : List (ℕ × Char)} (hform : ∀ column ∈ form, column.2.toNat < 0x80)
    (ns : List ℕ) : ∀ c ∈ columns form ns, c.toNat < 0x80 := by
  induction form generalizing ns with
  | nil => simp [columns]
  | cons column form ih =>
      obtain ⟨width, mark⟩ := column
      cases ns with
      | nil => simp [columns]
      | cons n ns =>
          intro c hc
          rcases List.mem_append.mp hc with hc | hc
          · obtain ⟨d, hd, -, hcode⟩ := exists_digit (padded_allDigits width n c hc)
            omega
          rcases List.mem_cons.mp hc with rfl | hc
          · exact hform _ List.mem_cons_self
          · exact ih (fun column hcolumn => hform column (List.mem_cons_of_mem _ hcolumn)) ns c hc

/-! ### Rows -/

/-- The columns of a row's time. -/
def rowForm : List (ℕ × Char) :=
  [(4, '-'), (2, '-'), (2, 'T'), (2, ':'), (2, ':'), (2, '.'), (3, 'Z')]

/-- The numbers that a row shows of an instant. -/
def shownParts (t : Instant) : List ℕ :=
  [t.date.year.toNat, t.date.month, t.date.day, t.hour, t.minute, t.shownSecond,
    t.nano % 1000000000 / 1000000]

variable {t u : Instant}

lemma toList_rowText (h : t.HasPlainYear) : t.rowText.toList = columns rowForm t.shownParts := by
  rw [rowText, String.toList_ofList, write, stored, yearText, if_pos ⟨h.1, h.2⟩]
  simp [columns, rowForm, shownParts, fractionText]

lemma fitIn_shownParts (h : t.HasPlainYear) : FitIn rowForm t.shownParts := by
  have hyear : t.date.year.toNat < 10 ^ 4 := by
    have := h.1
    have := h.2
    omega
  have hmonth : t.date.month < 10 ^ 2 := by have := t.date.month_mem; omega
  have hday : t.date.day < 10 ^ 2 := by have := t.date.day_le; omega
  have hhour : t.hour < 10 ^ 2 := by have := t.hour_lt; omega
  have hminute : t.minute < 10 ^ 2 := by have := t.minute_lt; omega
  have hsecond : t.shownSecond < 10 ^ 2 := by
    have := t.second_lt
    rw [shownSecond]
    split <;> omega
  have hmilli : t.nano % 1000000000 / 1000000 < 10 ^ 3 := by omega
  rw [FitIn, rowForm, shownParts]
  simp only [List.forall₂_cons, hyear, hmonth, hday, hhour, hminute, hsecond, hmilli, and_true]
  exact ⟨by decide, by decide, by decide, by decide, by decide, by decide, by decide, .nil⟩

/-- A regular leap second is shown by a number of its own, which comes behind all others of the minute. -/
lemma shownSecond_lt_iff (ht : t.IsRegular) (hu : u.IsRegular) :
    (t.shownSecond < u.shownSecond ∨ t.shownSecond = u.shownSecond ∧
      t.nano % 1000000000 / 1000000 < u.nano % 1000000000 / 1000000) ↔
    (t.second < u.second ∨ t.second = u.second ∧
      t.nano / 1000000 * 1000000 < u.nano / 1000000 * 1000000) := by
  rw [IsRegular] at ht hu
  have htnano := t.nano_lt
  have hunano := u.nano_lt
  have htsecond := t.second_lt
  have husecond := u.second_lt
  rw [shownSecond, shownSecond]
  split <;> split <;> omega

/-- The shown parts are ordered as the instants cut down to milliseconds are. -/
lemma shownParts_lt_iff (ht : t.IsKept) (hu : u.IsKept) :
    t.shownParts < u.shownParts ↔ t.toMillisecond < u.toMillisecond := by
  have hlt : t.date.year.toNat < u.date.year.toNat ↔ t.date.year < u.date.year := by
    have := ht.plain.1
    have := hu.plain.1
    omega
  have heq : t.date.year.toNat = u.date.year.toNat ↔ t.date.year = u.date.year := by
    have := ht.plain.1
    have := hu.plain.1
    omega
  show t.shownParts < u.shownParts ↔ t.toMillisecond.parts < u.toMillisecond.parts
  simp only [shownParts, parts, toMillisecond, List.cons_lt_cons_iff, Nat.cast_lt, Nat.cast_inj, hlt,
    heq, List.not_lt_nil, and_false, or_false, shownSecond_lt_iff ht.regular hu.regular]

lemma shownParts_toMillisecond (t : Instant) : t.toMillisecond.shownParts = t.shownParts := by
  have hleap : 1000000000 ≤ t.nano / 1000000 * 1000000 ↔ 1000000000 ≤ t.nano := by omega
  have hnano : t.nano / 1000000 * 1000000 % 1000000000 / 1000000 = t.nano % 1000000000 / 1000000 := by
    omega
  simp only [shownParts, shownSecond, toMillisecond, hleap, hnano]

/-- A row shows of an instant only what stays when it is cut down to milliseconds. -/
lemma rowText_toMillisecond (h : t.HasPlainYear) : t.toMillisecond.rowText = t.rowText := by
  have hplain : t.toMillisecond.HasPlainYear := h
  rw [← String.toList_inj, toList_rowText hplain, toList_rowText h, shownParts_toMillisecond]

/-- The bytes of the texts are ordered as the instants are that are read back from them. -/
theorem rowText_lt_iff (ht : t.IsKept) (hu : u.IsKept) :
    (Utf8.ofString t.rowText).map UInt8.toNat < (Utf8.ofString u.rowText).map UInt8.toNat ↔
      t.toMillisecond < u.toMillisecond := by
  have hbytes {t : Instant} (h : t.HasPlainYear) :
      (Utf8.ofString t.rowText).map UInt8.toNat = codes (columns rowForm t.shownParts) := by
    have hmarks : ∀ column ∈ rowForm, column.2.toNat < 0x80 := by decide
    have hascii := ascii_columns hmarks t.shownParts
    rw [Utf8.ofString, toList_rowText h, Utf8.map_toNat_encode hascii, codes]
  rw [hbytes ht.plain, hbytes hu.plain,
    columns_lt_iff (fitIn_shownParts ht.plain) (fitIn_shownParts hu.plain), shownParts_lt_iff ht hu]

end Instant

end ChainElection
