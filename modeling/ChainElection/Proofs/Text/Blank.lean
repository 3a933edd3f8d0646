import Mathlib.Data.List.TakeWhile
import ChainElection.Text.Blank

/-!
Texts with blanks around them.

* `Pads`: a text is another one with blanks around it. `pads_trim` and
  `Pads.trim_eq`: `trim` takes them off, and no more than them.
* `IsBare`: a text neither begins nor ends with a blank. `trim_eq_iff`: a text is
  in just one way a bare text with blanks around it.
* `splitOnce_append`: a text is cut at the first place where the character stands.
* `IsCut`: the parts of a text between the places where a character stands.
  `isCut_iff`: they are those that `splitOn` finds.
-/

namespace ChainElection.Text

/-! ### Blanks around a text -/

/-- The text is `t` with blanks around it. -/
def Pads (s t : List Char) : Prop :=
  ∃ w w' : List Char, (∀ c ∈ w, isBlank c = true) ∧ (∀ c ∈ w', isBlank c = true) ∧ s = w ++ t ++ w'

lemma Pads.of_eq {s t : List Char} (w w' : List Char) (hs : s = w ++ t ++ w')
    (hw : w.all isBlank = true) (hw' : w'.all isBlank = true) : Pads s t :=
  ⟨w, w', List.all_eq_true.mp hw, List.all_eq_true.mp hw', hs⟩

lemma Pads.refl (s : List Char) : Pads s s :=
  .of_eq [] [] (by rw [List.nil_append, List.append_nil]) rfl rfl

lemma Pads.mem {s t : List Char} (h : Pads s t) {c : Char} (hc : c ∈ s) : isBlank c = true ∨ c ∈ t := by
  obtain ⟨w, w', hw, hw', rfl⟩ := h
  rcases List.mem_append.mp hc with hc | hc
  · exact (List.mem_append.mp hc).imp_left (hw c)
  · exact .inl (hw' c hc)

lemma Pads.mem_of_mem {s t : List Char} (h : Pads s t) {c : Char} (hc : c ∈ t) : c ∈ s := by
  obtain ⟨w, w', -, -, rfl⟩ := h
  exact List.mem_append_left w' (List.mem_append_right w hc)

/-- Characters that are no blanks are as many with the blanks as without them. -/
lemma Pads.count_eq {s t : List Char} (h : Pads s t) {c : Char} (hc : isBlank c = false) :
    s.count c = t.count c := by
  obtain ⟨w, w', hw, hw', rfl⟩ := h
  have hnone {l : List Char} (hl : ∀ x ∈ l, isBlank x = true) : l.count c = 0 :=
    List.count_eq_zero.mpr fun hmem => by simp [hl c hmem] at hc
  rw [List.count_append, List.count_append, hnone hw, hnone hw', Nat.zero_add, Nat.add_zero]

lemma trimStart_spec (s : List Char) :
    ∃ w : List Char, (∀ c ∈ w, isBlank c = true) ∧ s = w ++ trimStart s :=
  ⟨s.takeWhile isBlank, fun _ => List.mem_takeWhile_imp, List.takeWhile_append_dropWhile.symm⟩

lemma trimEnd_spec (s : List Char) :
    ∃ w : List Char, (∀ c ∈ w, isBlank c = true) ∧ s = trimEnd s ++ w := by
  obtain ⟨w, hw, hs⟩ := trimStart_spec s.reverse
  refine ⟨w.reverse, fun c hc => hw c (List.mem_reverse.mp hc), ?_⟩
  rw [trimEnd, ← List.reverse_append, ← trimStart, ← hs, List.reverse_reverse]

/-- What `trim` takes off are blanks. -/
theorem pads_trim (s : List Char) : Pads s (trim s) := by
  obtain ⟨w, hw, hs⟩ := trimStart_spec s
  obtain ⟨w', hw', hs'⟩ := trimEnd_spec (trimStart s)
  refine ⟨w, w', hw, hw', ?_⟩
  rw [trim, List.append_assoc, ← hs', ← hs]

/-- No blanks around a text are left by `trim`. -/
theorem Pads.trim_eq {s t : List Char} (h : Pads s t) : trim s = trim t := by
  obtain ⟨w, w', hw, hw', rfl⟩ := h
  rw [trim, List.append_assoc, trimStart_append_of_all (List.all_eq_true.mpr hw)]
  -- Where there are only blanks, the first cut takes them all, those behind the text too.
  by_cases ht : ∀ c ∈ t, isBlank c = true
  · have hblank {l : List Char} (hl : ∀ c ∈ l, isBlank c = true) : trimStart l = [] :=
      List.dropWhile_eq_nil_iff.mpr hl
    rw [trim, hblank ht, hblank fun c hc => (List.mem_append.mp hc).elim (ht c) (hw' c)]
  · have hne : t.dropWhile isBlank ≠ [] := fun hnil => ht (List.dropWhile_eq_nil_iff.mp hnil)
    have happend : trimStart (t ++ w') = trimStart t ++ w' := by
      rw [trimStart, List.dropWhile_append, if_neg (by simpa using hne), trimStart]
    rw [happend, trimEnd_append_of_all (List.all_eq_true.mpr hw'), trim]

lemma trimStart_eq_self {s : List Char} (h : ∀ c ∈ s.head?, isBlank c = false) : trimStart s = s := by
  cases s with
  | nil => rfl
  | cons c r => rw [trimStart, List.dropWhile_cons_of_neg (by simp [h c rfl])]

/-- A text that neither begins nor ends with a blank is left as it is. -/
lemma trim_eq_self {s : List Char} (hhead : ∀ c ∈ s.head?, isBlank c = false)
    (hlast : ∀ c ∈ s.getLast?, isBlank c = false) : trim s = s := by
  have hreverse : trimStart s.reverse = s.reverse :=
    trimStart_eq_self (by rwa [List.head?_reverse])
  rw [trim, trimStart_eq_self hhead, trimEnd, ← trimStart, hreverse, List.reverse_reverse]

/-- The text neither begins nor ends with a blank. -/
def IsBare (s : List Char) : Prop :=
  (∀ c ∈ s.head?, isBlank c = false) ∧ ∀ c ∈ s.getLast?, isBlank c = false

lemma isBlank_of_head?_trimStart {s : List Char} : ∀ c ∈ (trimStart s).head?, isBlank c = false := by
  intro c hc
  have hstop := List.head?_dropWhile_not isBlank s
  rw [trimStart, Option.mem_def] at hc
  rwa [hc] at hstop

lemma isBare_trim (s : List Char) : IsBare (trim s) := by
  obtain ⟨w, -, hw⟩ := trimEnd_spec (trimStart s)
  constructor
  · -- what is left begins as it did before the blanks behind it were cut off
    intro c hc
    have hfront : c ∈ (trimStart s).head? := by
      rw [trim] at hc
      rw [hw, List.head?_append, Option.mem_def.mp hc]
      rfl
    exact isBlank_of_head?_trimStart c hfront
  · intro c hc
    rw [trim, trimEnd, List.getLast?_reverse] at hc
    exact isBlank_of_head?_trimStart c hc

/-- A text is in just one way a bare text with blanks around it. -/
theorem trim_eq_iff {s t : List Char} : trim s = t ↔ Pads s t ∧ IsBare t := by
  constructor
  · rintro rfl
    exact ⟨pads_trim s, isBare_trim s⟩
  · rintro ⟨hpads, hhead, hlast⟩
    rw [hpads.trim_eq, trim_eq_self hhead hlast]

/-! ### Cutting at a character -/

theorem splitOnce_append {c : Char} {a : List Char} (ha : c ∉ a) (b : List Char) :
    splitOnce c (a ++ c :: b) = some (a, b) := by
  induction a with
  | nil => rw [List.nil_append, splitOnce, if_pos rfl]
  | cons d r ih =>
      obtain ⟨hd, hr⟩ := not_or.mp (mt List.mem_cons.mpr ha)
      rw [List.cons_append, splitOnce, if_neg (Ne.symm hd), ih hr, Option.map_some]

lemma splitOn_eq (c : Char) (s : List Char) : splitOn c s = s.splitOn c := by
  induction s with
  | nil => rfl
  | cons d r ih =>
      rw [splitOn, List.splitOn, List.splitOnP_cons_eq_if_modifyHead, ← List.splitOn, ← ih]
      by_cases hd : d = c
      · rw [if_pos hd, if_pos (beq_iff_eq.mpr hd)]
      · rw [if_neg hd, if_neg (by simpa using hd)]
        cases hparts : splitOn c r with
        | nil => exact absurd hparts (splitOn_ne_nil c r)
        | cons p ps => rfl

/-- A text in which the character does not stand is one part. -/
lemma splitOn_of_notMem {c : Char} {s : List Char} (h : c ∉ s) : splitOn c s = [s] := by
  induction s with
  | nil => rfl
  | cons d r ih =>
      rw [List.mem_cons, not_or] at h
      rw [splitOn, if_neg (Ne.symm h.1), ih h.2]

/-- The first part ends where the character stands first. -/
lemma splitOn_append {c : Char} {s : List Char} (h : c ∉ s) (r : List Char) :
    splitOn c (s ++ c :: r) = s :: splitOn c r := by
  induction s with
  | nil => rw [List.nil_append, splitOn, if_pos rfl]
  | cons d s ih =>
      rw [List.mem_cons, not_or] at h
      rw [List.cons_append, splitOn, if_neg (Ne.symm h.1), ih h.2]

/-- The parts with the character between them are the text. -/
lemma intercalate_splitOn (c : Char) (s : List Char) : [c].intercalate (splitOn c s) = s := by
  rw [splitOn_eq, List.intercalate_splitOn]

lemma notMem_of_mem_splitOn {c : Char} {s p : List Char} (hp : p ∈ splitOn c s) : c ∉ p := by
  induction s generalizing p with
  | nil =>
      obtain rfl := List.mem_singleton.mp hp
      exact List.not_mem_nil
  | cons d r ih =>
      rw [splitOn] at hp
      split at hp
      · rcases List.mem_cons.mp hp with rfl | hp
        · exact List.not_mem_nil
        · exact ih hp
      · rename_i hd
        cases hparts : splitOn c r with
        | nil => exact absurd hparts (splitOn_ne_nil c r)
        | cons q qs =>
            rw [hparts] at hp ih
            rcases List.mem_cons.mp hp with rfl | hp
            · exact List.not_mem_cons_of_ne_of_not_mem (Ne.symm hd) (ih List.mem_cons_self)
            · exact ih (List.mem_cons_of_mem q hp)

/-- The parts make up the text, with the character between each two of them and in none of them. -/
structure IsCut (c : Char) (s : List Char) (parts : List (List Char)) : Prop where
  nonempty : parts ≠ []
  clean : ∀ p ∈ parts, c ∉ p
  joined : [c].intercalate parts = s

/-- Every text is cut at a character in just one way. -/
theorem isCut_iff {c : Char} {s : List Char} {parts : List (List Char)} :
    IsCut c s parts ↔ parts = splitOn c s := by
  constructor
  · rintro ⟨hne, hclean, rfl⟩
    rw [splitOn_eq, List.splitOn_intercalate c hclean hne]
  · rintro rfl
    exact ⟨splitOn_ne_nil c s, fun _ => notMem_of_mem_splitOn, intercalate_splitOn c s⟩

end ChainElection.Text
