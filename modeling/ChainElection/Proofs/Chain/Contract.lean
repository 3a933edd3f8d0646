import Mathlib.Tactic
import ChainElection.Chain.Contract
import ChainElection.Proofs.Text.Blank
import ChainElection.Proofs.Text.Numeral
import ChainElection.Proofs.Text.Utf8

/-!
Addresses of contracts, and the texts that they are read from.

* `ContractAddress.IsPart`, `ContractAddress.Opens`, `ContractAddress.Spells`: the
  grammar of addresses.
* `ContractAddress.read_eq_ok_iff`: an address is read from the texts that spell
  it. There are no brackets in the parts, so a text is not spelled both with the
  brackets and without them.
* `ContractAddress.read_accepts_grammar`: what is read and what is refused.
-/

namespace ChainElection

namespace ContractAddress

/-! ### The grammar -/

/-- The text is a number with blanks around it. -/
def IsPart (s : List Char) (n : ℕ) : Prop :=
  ∃ t : List Char, Text.Pads s t ∧ Numeral.Denotes t n

/-- The text is `inner`, or `inner` in a pair of angle brackets with blanks around them. -/
def Opens (s inner : List Char) : Prop :=
  s = inner ∨ Text.Pads s ('<' :: inner ++ ['>'])

/-- The text spells the address of the numbers: two parts with a comma between them. -/
def Spells (s : String) (i j : ℕ) : Prop :=
  ∃ inner a b : List Char, Opens s.toList inner ∧ inner = a ++ ',' :: b ∧ ',' ∉ a ∧
    IsPart a i ∧ IsPart b j

/-- The part is empty, or its number has more than 64 bits. -/
def Faulty (s : List Char) : Prop := Text.Pads s [] ∨ ∃ n, 2 ^ 64 ≤ n ∧ IsPart s n

/-! ### Parts -/

/-- A part consists of blanks, digits and a sign. -/
lemma IsPart.mem {s : List Char} {n : ℕ} (h : IsPart s n) {c : Char} (hc : c ∈ s) :
    Text.isBlank c = true ∨ c = '+' ∨ c.isDigit = true := by
  obtain ⟨t, hpads, ht⟩ := h
  exact (hpads.mem hc).imp_right ht.mem

/-- The reader of a part accepts the numbers of 64 bits. -/
lemma readPart_eq_ok_iff {s : List Char} {x : UInt64} : readPart s = .ok x ↔ IsPart s x.toNat := by
  have hx : x.toNat ≤ Numeral.max64 := Nat.le_of_lt_succ x.toNat_lt
  constructor
  · intro h
    obtain ⟨n, hn, rfl⟩ := map_eq_ok_iff.mp h
    obtain ⟨hdenotes, hle⟩ := Numeral.readNat_eq_ok_iff.mp hn
    rw [UInt64.toNat_ofNat_of_lt' (Nat.lt_succ_of_le hle)]
    exact ⟨Text.trim s, Text.pads_trim s, hdenotes⟩
  · rintro ⟨t, hpads, ht⟩
    rw [readPart, hpads.trim_eq, ht.trim_eq, Numeral.readNat_eq_ok_iff.mpr ⟨ht, hx⟩, Except.map,
      UInt64.ofNat_toNat]

lemma IsPart.unique {s : List Char} {m n : ℕ} (hm : IsPart s m) (hn : IsPart s n) : m = n := by
  obtain ⟨t, hpads, ht⟩ := hm
  obtain ⟨t', hpads', ht'⟩ := hn
  have heq : t = t' := by
    rw [← ht.trim_eq, ← hpads.trim_eq, hpads'.trim_eq, ht'.trim_eq]
  exact ht.unique (heq ▸ ht')

/-- The character stands in no part. -/
def IsMark (c : Char) : Prop := Text.isBlank c = false ∧ c ≠ '+' ∧ c.isDigit = false

lemma isMark_open : IsMark '<' := ⟨rfl, by decide, rfl⟩

lemma isMark_close : IsMark '>' := ⟨rfl, by decide, rfl⟩

lemma isMark_comma : IsMark ',' := ⟨rfl, by decide, rfl⟩

lemma IsMark.notMem_of_isPart {s : List Char} {n : ℕ} {c : Char} (hc : IsMark c) (h : IsPart s n) :
    c ∉ s := by
  obtain ⟨hblank, hsign, hdigit⟩ := hc
  intro hmem
  rcases h.mem hmem with hc | hc | hc
  · rw [hblank] at hc
    cases hc
  · exact hsign hc
  · rw [hdigit] at hc
    cases hc

lemma IsMark.notMem_of_faulty {s : List Char} {c : Char} (hc : IsMark c) (h : Faulty s) : c ∉ s := by
  rcases h with hpads | ⟨n, -, hn⟩
  · intro hmem
    rcases hpads.mem hmem with hblank | hnil
    · rw [hc.1] at hblank
      cases hblank
    · cases hnil
  · exact hc.notMem_of_isPart hn

/-- A part that is empty or too large is refused. -/
lemma Faulty.exists_readPart {s : List Char} (h : Faulty s) : ∃ f, readPart s = .error f := by
  refine exists_eq_error_iff.mpr fun x hread => ?_
  have hpart := readPart_eq_ok_iff.mp hread
  rcases h with hblank | ⟨n, hlarge, hn⟩
  · obtain ⟨t, hpads, ht⟩ := hpart
    have hnil : t = [] := by
      rw [← ht.trim_eq, ← hpads.trim_eq, hblank.trim_eq]
      rfl
    exact ht.ne_nil hnil
  · rw [hn.unique hpart] at hlarge
    exact Nat.not_lt.mpr hlarge x.toNat_lt

/-! ### Brackets -/

lemma unbracketed?_eq_some_iff {s inner : List Char} :
    unbracketed? s = some inner ↔ Text.Pads s ('<' :: inner ++ ['>']) := by
  constructor
  · intro h
    rw [unbracketed?] at h
    split at h
    · rename_i r htrim
      split at h
      · rename_i hlast
        obtain ⟨ys, rfl⟩ := List.getLast?_eq_some_iff.mp hlast
        rw [List.dropLast_concat, Option.some.injEq] at h
        rw [← h, List.cons_append, ← htrim]
        exact Text.pads_trim s
      · cases h
    · cases h
  · intro h
    have htrim : Text.trim s = '<' :: (inner ++ ['>']) := by
      rw [h.trim_eq, List.cons_append]
      refine Text.trim_eq_self (fun c hc => ?_) fun c hc => ?_
      · rw [List.head?_cons, Option.mem_some_iff] at hc
        rw [← hc]
        rfl
      · rw [← List.cons_append, List.getLast?_concat, Option.mem_some_iff] at hc
        rw [← hc]
        rfl
    simp only [unbracketed?, htrim]
    rw [List.getLast?_concat, if_pos rfl, List.dropLast_concat]

/-- What follows the blanks in front stands before any other character that is no blank. -/
lemma mem_of_blanks {w r a b : List Char} {c d : Char} (hw : ∀ x ∈ w, Text.isBlank x = true)
    (hd : Text.isBlank d = false) (hne : c ≠ d) (h : w ++ c :: r = a ++ d :: b) : c ∈ a := by
  rcases List.append_eq_append_iff.mp h with ⟨as, rfl, has⟩ | ⟨bs, rfl, hbs⟩
  · cases as with
    | nil => exact absurd (List.cons.inj has).1 hne
    | cons x as =>
        rw [(List.cons.inj has).1]
        exact List.mem_append_right _ List.mem_cons_self
  · cases bs with
    | nil => exact absurd (List.cons.inj hbs).1.symm hne
    | cons x bs =>
        have hblank := hw x (List.mem_append_right _ List.mem_cons_self)
        rw [← (List.cons.inj hbs).1, hd] at hblank
        cases hblank

/-- Brackets around two parts would stand within the parts. -/
lemma mem_of_brackets {a b r : List Char} (h : Text.Pads (a ++ ',' :: b) ('<' :: r ++ ['>'])) :
    '<' ∈ a ∧ '>' ∈ b := by
  obtain ⟨w, w', hw, hw', heq⟩ := h
  constructor
  · refine mem_of_blanks (d := ',') (r := r ++ '>' :: w') (b := b) hw rfl (by decide) ?_
    rw [heq]
    simp
  · have hmem : '>' ∈ b.reverse := by
      refine mem_of_blanks (d := ',') (w := w'.reverse) (r := r.reverse ++ '<' :: w.reverse)
        (b := a.reverse) (fun c hc => hw' c (List.mem_reverse.mp hc)) rfl (by decide) ?_
      have hreverse := congrArg List.reverse heq
      simpa using hreverse.symm
    exact List.mem_reverse.mp hmem

/-- Two parts without brackets of their own are read. -/
lemma read_of_opens {s : String} {a b : List Char} (h : Opens s.toList (a ++ ',' :: b)) (ha : ',' ∉ a)
    (hplain : '<' ∉ a ∨ '>' ∉ b) :
    read s = match readPart a with
      | .error f => .error (.index f)
      | .ok index =>
        match readPart b with
        | .error f => .error (.subindex f)
        | .ok subindex => .ok ⟨index, subindex⟩ := by
  have hinner : (unbracketed? s.toList).getD s.toList = a ++ ',' :: b := by
    rcases h with heq | hpads
    · cases hbrackets : unbracketed? s.toList with
      | none => rw [Option.getD_none, heq]
      | some r =>
          obtain ⟨hmem, hmem'⟩ := mem_of_brackets (heq ▸ unbracketed?_eq_some_iff.mp hbrackets)
          rcases hplain with hplain | hplain
          · exact absurd hmem hplain
          · exact absurd hmem' hplain
    · rw [unbracketed?_eq_some_iff.mpr hpads, Option.getD_some]
  have hsplit : Text.splitOnce ',' ((unbracketed? s.toList).getD s.toList) = some (a, b) := by
    rw [hinner, Text.splitOnce_append ha]
  cases hi : readPart a with
  | error f => simp only [read, hsplit, hi]
  | ok i =>
      cases hj : readPart b with
      | error f => simp only [read, hsplit, hi, hj]
      | ok j => simp only [read, hsplit, hi, hj]

/-! ### Reading -/

/-- An address is read from the texts that spell it, and from no others. -/
theorem read_eq_ok_iff {s : String} {x : ContractAddress} :
    read s = .ok x ↔ Spells s x.index.toNat x.subindex.toNat := by
  constructor
  · intro h
    rw [read] at h
    split at h
    · cases h
    · rename_i a b hsplit
      obtain ⟨hinner, ha⟩ := Text.splitOnce_eq_some hsplit
      have hopens : Opens s.toList (a ++ ',' :: b) := by
        cases hbrackets : unbracketed? s.toList with
        | none => exact .inl (by rw [← hinner, hbrackets, Option.getD_none])
        | some r =>
            rw [hbrackets, Option.getD_some] at hinner
            exact .inr (hinner ▸ unbracketed?_eq_some_iff.mp hbrackets)
      split at h
      · cases h
      · rename_i i hi
        split at h
        · cases h
        · rename_i j hj
          cases h
          exact ⟨_, a, b, hopens, rfl, ha, readPart_eq_ok_iff.mp hi, readPart_eq_ok_iff.mp hj⟩
  · rintro ⟨inner, a, b, hopens, rfl, ha, hi, hj⟩
    rw [read_of_opens hopens ha (.inl (isMark_open.notMem_of_isPart hi)),
      readPart_eq_ok_iff.mpr hi, readPart_eq_ok_iff.mpr hj]

/-- A text is refused if it spells no address of which both numbers have 64 bits. -/
lemma exists_read_eq_error_iff {s : String} :
    (∃ f, read s = .error f) ↔ ∀ i j, Spells s i j → 2 ^ 64 ≤ i ∨ 2 ^ 64 ≤ j := by
  rw [exists_eq_error_iff]
  constructor
  · intro hnone i j hspells
    by_contra hin
    push Not at hin
    refine hnone ⟨UInt64.ofNat i, UInt64.ofNat j⟩ (read_eq_ok_iff.mpr ?_)
    rwa [UInt64.toNat_ofNat_of_lt' hin.1, UInt64.toNat_ofNat_of_lt' hin.2]
  · intro hlarge x hread
    rcases hlarge _ _ (read_eq_ok_iff.mp hread) with h | h
    · exact Nat.not_lt.mpr h x.index.toNat_lt
    · exact Nat.not_lt.mpr h x.subindex.toNat_lt

lemma spells_text (x : ContractAddress) : Spells x.text x.index.toNat x.subindex.toNat := by
  have hpart (n : ℕ) : IsPart (Numeral.write n) n :=
    ⟨_, Text.Pads.refl _, Numeral.denotes_write n⟩
  refine ⟨_, Numeral.write x.index.toNat, Numeral.write x.subindex.toNat, .inr ?_, rfl,
    isMark_comma.notMem_of_isPart (hpart _), hpart _, hpart _⟩
  rw [text, String.toList_ofList, List.cons_append]
  exact Text.Pads.refl _

lemma text_eq (x : ContractAddress) : x.text = s!"<{x.index.toNat},{x.subindex.toNat}>" := by
  have hparts : s!"<{x.index.toNat},{x.subindex.toNat}>" =
      "<" ++ x.index.toNat.repr ++ "," ++ x.subindex.toNat.repr ++ ">" := rfl
  rw [hparts, text, ← String.toList_inj, String.toList_ofList]
  simp [Numeral.write]

/-- What is spelled without a pair of brackets has no bracket in it. -/
lemma IsMark.notMem_of_spells {s : String} {i j : ℕ} {c : Char} (hc : IsMark c) (hcomma : c ≠ ',')
    (hnone : ∀ r, ¬ Text.Pads s.toList ('<' :: r ++ ['>'])) (h : Spells s i j) : c ∉ s.toList := by
  obtain ⟨inner, a, b, heq | hpads, rfl, -, hi, hj⟩ := h
  · rw [heq, List.mem_append, List.mem_cons]
    rintro (hmem | hmem | hmem)
    · exact hc.notMem_of_isPart hi hmem
    · exact hcomma hmem
    · exact hc.notMem_of_isPart hj hmem
  · exact absurd hpads (hnone _)

/-- There is one comma in what spells an address. -/
lemma count_of_spells {s : String} {i j : ℕ} (h : Spells s i j) : s.toList.count ',' = 1 := by
  obtain ⟨inner, a, b, hopens, rfl, ha, -, hj⟩ := h
  have hb : ',' ∉ b := isMark_comma.notMem_of_isPart hj
  have hinner : (a ++ ',' :: b).count ',' = 1 := by
    rw [List.count_append, List.count_cons_self, List.count_eq_zero.mpr ha, List.count_eq_zero.mpr hb]
  rcases hopens with heq | hpads
  · rw [heq, hinner]
  · rw [hpads.count_eq rfl, List.count_append, List.count_cons_of_ne (by decide), hinner]
    rfl

/-- Parts of which one is empty or too large are refused. -/
lemma exists_error_of_faulty {s : String} {a b : List Char} (h : Opens s.toList (a ++ ',' :: b))
    (ha : ',' ∉ a) (hfaulty : Faulty a ∨ Faulty b) : ∃ f, read s = .error f := by
  have hplain : '<' ∉ a ∨ '>' ∉ b :=
    hfaulty.imp isMark_open.notMem_of_faulty isMark_close.notMem_of_faulty
  rw [read_of_opens h ha hplain]
  rcases hfaulty with hfaulty | hfaulty
  · obtain ⟨f, hf⟩ := hfaulty.exists_readPart
    exact ⟨.index f, by rw [hf]⟩
  · obtain ⟨f, hf⟩ := hfaulty.exists_readPart
    cases readPart a with
    | error f' => exact ⟨.index f', rfl⟩
    | ok i => exact ⟨.subindex f, by rw [hf]⟩

/-- An address is read from two numbers of 64 bits with a comma between them, each in digits with or
without a plus sign, in a pair of angle brackets or in none, with blanks anywhere but within the numbers,
and from nothing else. One bracket without the other, more or fewer commas than one, a part that is empty
or too large: none of these is read. An address is read from its text. -/
theorem read_accepts_grammar :
    (∀ (s : String) (x : ContractAddress),
      read s = .ok x ↔ Spells s x.index.toNat x.subindex.toNat) ∧
    (∀ s : String, (∃ f, read s = .error f) ↔
      ∀ i j, Spells s i j → 2 ^ 64 ≤ i ∨ 2 ^ 64 ≤ j) ∧
    (∀ s : String, ((∃ r, Text.Pads s.toList ('<' :: r)) ∨ ∃ r, Text.Pads s.toList (r ++ ['>'])) →
      (∀ r, ¬ Text.Pads s.toList ('<' :: r ++ ['>'])) → ∃ f, read s = .error f) ∧
    (∀ s : String, s.toList.count ',' ≠ 1 → ∃ f, read s = .error f) ∧
    (∀ (s : String) (a b : List Char), Opens s.toList (a ++ ',' :: b) → ',' ∉ a →
      Faulty a ∨ Faulty b → ∃ f, read s = .error f) ∧
    ∀ x : ContractAddress,
      x.text = s!"<{x.index.toNat},{x.subindex.toNat}>" ∧ read x.text = .ok x := by
  refine ⟨fun s x => read_eq_ok_iff, fun s => exists_read_eq_error_iff, fun s hone hnone => ?_,
    fun s hcount => ?_, fun s a b => exists_error_of_faulty,
    fun x => ⟨x.text_eq, read_eq_ok_iff.mpr (spells_text x)⟩⟩
  · refine exists_read_eq_error_iff.mpr fun i j hspells => ?_
    rcases hone with ⟨r, hr⟩ | ⟨r, hr⟩
    · exact absurd (hr.mem_of_mem List.mem_cons_self)
        (isMark_open.notMem_of_spells (by decide) hnone hspells)
    · exact absurd (hr.mem_of_mem (List.mem_append_right r List.mem_cons_self))
        (isMark_close.notMem_of_spells (by decide) hnone hspells)
  · exact exists_read_eq_error_iff.mpr fun i j hspells => absurd (count_of_spells hspells) hcount

/-- Blanks of several kinds, a sign and zeros in front are read over; a bracket, a comma or a number too
many is not. -/
theorem read_accepts_grammar_of_blanks :
    read "\u3000< +007820 ,\t0 >\n" = .ok ⟨7820, 0⟩ ∧
      (∃ f, read " <5,3" = .error f) ∧ (∃ f, read "1,2,3" = .error f) ∧ (∃ f, read "< ,5>" = .error f) ∧
      (∃ f, read "5,18446744073709551616" = .error f) ∧ read "<7820,0>" = .ok ⟨7820, 0⟩ := by
  obtain ⟨hread, -, hone, hcommas, hparts, htext⟩ := read_accepts_grammar
  have hspells : Spells "\u3000< +007820 ,\t0 >\n" 7820 0 := by
    refine ⟨" +007820 ,\t0 ".toList, " +007820 ".toList, "\t0 ".toList, .inr ?_, by decide +kernel,
      by decide +kernel, ⟨"+007820".toList, ?_, ?_⟩, ⟨['0'], ?_, Numeral.denotes_write 0⟩⟩
    · exact .of_eq ['\u3000'] ['\n'] (by decide +kernel) rfl rfl
    · exact .of_eq [' '] [' '] (by decide +kernel) rfl rfl
    · exact ⟨"007820".toList, .inr (by decide +kernel), by decide +kernel,
        List.all_eq_true.mp (by decide +kernel), by decide +kernel⟩
    · exact .of_eq ['\t'] [' '] (by decide +kernel) rfl rfl
  refine ⟨(hread _ _).mpr hspells, hone _ (.inl ⟨"5,3".toList, ?_⟩) fun r hr => ?_,
    hcommas _ (by decide +kernel), hparts _ [' '] ['5'] (.inr ?_) (by decide +kernel) (.inl (.inl ?_)),
    hparts _ ['5'] "18446744073709551616".toList (.inl (by decide +kernel)) (by decide +kernel)
      (.inr (.inr ⟨18446744073709551616, by decide, ?_⟩)), (htext ⟨7820, 0⟩).2⟩
  · exact .of_eq [' '] [] (by decide +kernel) rfl rfl
  · exact absurd (hr.mem_of_mem (List.mem_append_right _ List.mem_cons_self)) (by decide +kernel)
  · exact .of_eq [] [] (by decide +kernel) rfl rfl
  · exact .of_eq [' '] [] rfl rfl rfl
  · exact ⟨_, Text.Pads.refl _, Numeral.denotes_write 18446744073709551616⟩

end ContractAddress

end ChainElection
