import Mathlib.Tactic
import ChainElection.Election.Ballot
import ChainElection.Proofs.Text.Blank

/-!
Selections, read from a text.

* `Selection.Spells`: a part of a text spells a selection. Reading a part is
  deciding this, by `readEntry_eq_ok_iff` and `readEntry_eq_error_iff`.
* `readEntries_eq_ok_iff`, `readEntries_eq_error_iff`: parts are read one by one,
  up to the first that spells nothing.
* `Spells.notMem_comma`: a comma never stands in what spells a selection, because
  neither trimming nor lower-casing takes it away.
* `selections_keep_their_places` puts these together for a text with commas.
-/

namespace ChainElection

/-! ### Characters that have only one case -/

namespace Text

/-- A character that is its own lower-case form is not lost when a text is lowered. -/
lemma mem_lowerFrom {c : Char} (hc : lowerChar c = [c]) (hsigma : c ≠ 'Σ') {s : List Char}
    (h : c ∈ s) (before : List Char) : c ∈ lowerFrom before s := by
  induction s generalizing before with
  | nil => cases h
  | cons d r ih =>
      rw [lowerFrom, List.mem_append]
      rcases List.mem_cons.mp h with rfl | h
      · rw [if_neg hsigma, hc]
        exact .inl List.mem_cons_self
      · exact .inr (ih h (d :: before))

end Text

namespace Selection

open Text

variable {p q t e : List Char} {b b' : Bool} {bs : List Bool} {ps : List (List Char)}

/-! ### One part -/

/-- The spellings of a selection, in lower case. -/
def spellings : Bool → List (List Char)
  | true => ["true".toList, "1".toList, "x".toList]
  | false => ["false".toList, "0".toList, []]

/-- The part spells a selection: what stands there between blanks is, in lower case, one of the
selection's spellings. -/
def Spells (p : List Char) (b : Bool) : Prop :=
  ∃ t, Pads p t ∧ IsBare t ∧ lowercase t ∈ spellings b

lemma spells_iff : Spells p b ↔ normal p ∈ spellings b := by
  constructor
  · rintro ⟨t, hpads, hbare, ht⟩
    rwa [normal, trim_eq_iff.mpr ⟨hpads, hbare⟩]
  · exact fun h => ⟨trim p, pads_trim p, isBare_trim p, h⟩

/-- No text is a spelling of both selections. -/
lemma spellings_disjoint (ht : t ∈ spellings true) : t ∉ spellings false := by
  simp only [spellings, List.mem_cons, List.not_mem_nil, or_false] at ht
  rcases ht with rfl | rfl | rfl <;> decide

lemma readEntry_eq_ok_iff : readEntry p = .ok b ↔ Spells p b := by
  have htrue : normal p ∈ spellings true ↔
      normal p = "true".toList ∨ normal p = "1".toList ∨ normal p = "x".toList := by
    simp only [spellings, List.mem_cons, List.not_mem_nil, or_false]
  have hfalse : normal p ∈ spellings false ↔
      normal p = "false".toList ∨ normal p = "0".toList ∨ normal p = [] := by
    simp only [spellings, List.mem_cons, List.not_mem_nil, or_false]
  rw [spells_iff, readEntry]
  simp only [← htrue, ← hfalse]
  by_cases hselected : normal p ∈ spellings true
  · rw [if_pos hselected, Except.ok.injEq]
    cases b with
    | true => exact iff_of_true rfl hselected
    | false => exact iff_of_false nofun (spellings_disjoint hselected)
  · rw [if_neg hselected]
    by_cases hleft : normal p ∈ spellings false
    · rw [if_pos hleft, Except.ok.injEq]
      cases b with
      | true => exact iff_of_false nofun hselected
      | false => exact iff_of_true rfl hleft
    · rw [if_neg hleft]
      cases b with
      | true => exact iff_of_false nofun hselected
      | false => exact iff_of_false nofun hleft

/-- A part spells at most one selection. -/
lemma Spells.unique (h : Spells p b) (h' : Spells p b') : b = b' :=
  Except.ok.inj ((readEntry_eq_ok_iff.mpr h).symm.trans (readEntry_eq_ok_iff.mpr h'))

/-- A part that spells nothing is reported as it was compared. -/
lemma readEntry_eq_error_iff : readEntry p = .error e ↔ (∀ b, ¬ Spells p b) ∧ e = normal p := by
  constructor
  · intro h
    refine ⟨fun b hb => ?_, ?_⟩
    · rw [readEntry_eq_ok_iff.mpr hb] at h
      cases h
    · rw [readEntry] at h
      split_ifs at h
      cases h
      rfl
  · rintro ⟨hnone, rfl⟩
    cases hread : readEntry p with
    | ok b => exact absurd (readEntry_eq_ok_iff.mp hread) (hnone b)
    | error e =>
        rw [readEntry] at hread
        split_ifs at hread
        cases hread
        rfl

/-- There is no comma in what spells a selection. -/
lemma Spells.notMem_comma (h : Spells p b) : ',' ∉ p := by
  obtain ⟨t, hpads, -, ht⟩ := h
  intro hp
  have hcore : ',' ∈ t := (hpads.mem hp).resolve_left (by decide)
  have hlower : ',' ∈ lowercase t := mem_lowerFrom (by decide) (by decide) hcore []
  have hnone : ∀ t ∈ spellings b, ',' ∉ t := by cases b <;> decide
  exact hnone _ ht hlower

/-! ### All parts -/

/-- What stands in a place is related to what stands in the same place of the other list. -/
lemma exists_getElem?_of_forall₂ {α β : Type} {R : α → β → Prop} {l : List α} {m : List β}
    (h : List.Forall₂ R l m) {i : ℕ} {a : α} (ha : l[i]? = some a) : ∃ b, m[i]? = some b ∧ R a b := by
  obtain ⟨hi, rfl⟩ := List.getElem?_eq_some_iff.mp ha
  have hi' : i < m.length := h.length_eq ▸ hi
  exact ⟨m.get ⟨i, hi'⟩, List.getElem?_eq_getElem hi', h.get hi hi'⟩

lemma exists_spells_of_mem (h : List.Forall₂ Spells ps bs) (hp : p ∈ ps) : ∃ b, Spells p b := by
  obtain ⟨i, hi⟩ := List.getElem?_of_mem hp
  obtain ⟨b, -, hb⟩ := exists_getElem?_of_forall₂ h hi
  exact ⟨b, hb⟩

/-- Each part spells the selection in its place. -/
theorem readEntries_eq_ok_iff : readEntries ps = .ok bs ↔ List.Forall₂ Spells ps bs := by
  induction ps generalizing bs with
  | nil =>
      rw [readEntries, Except.ok.injEq, List.forall₂_nil_left_iff]
      exact eq_comm
  | cons p ps ih =>
      rw [readEntries, List.forall₂_cons_left_iff]
      cases hp : readEntry p with
      | error e =>
          refine iff_of_false nofun ?_
          rintro ⟨b, -, hb, -⟩
          exact (readEntry_eq_error_iff.mp hp).1 b hb
      | ok b =>
          have hb := readEntry_eq_ok_iff.mp hp
          dsimp only
          constructor
          · intro h
            cases hps : readEntries ps with
            | error e =>
                rw [hps] at h
                cases h
            | ok bs' =>
                rw [hps] at h
                cases h
                exact ⟨b, bs', hb, ih.mp hps, rfl⟩
          · rintro ⟨b', bs', hb', hbs', rfl⟩
            rw [ih.mpr hbs', hb.unique hb']
            rfl

/-- What is reported is the first part that spells nothing. -/
theorem readEntries_eq_error_iff : readEntries ps = .error e ↔
    ∃ before p after, ps = before ++ p :: after ∧ (∀ q ∈ before, ∃ b, Spells q b) ∧
      (∀ b, ¬ Spells p b) ∧ e = normal p := by
  induction ps with
  | nil =>
      rw [readEntries]
      refine iff_of_false nofun ?_
      rintro ⟨before, p, after, h, -⟩
      exact List.append_ne_nil_of_right_ne_nil before (List.cons_ne_nil p after) h.symm
  | cons p ps ih =>
      rw [readEntries]
      cases hp : readEntry p with
      | error e' =>
          obtain ⟨hnone, rfl⟩ := readEntry_eq_error_iff.mp hp
          dsimp only
          rw [Except.error.injEq]
          constructor
          · rintro rfl
            exact ⟨[], p, ps, rfl, fun _ h => absurd h List.not_mem_nil, hnone, rfl⟩
          · rintro ⟨before, q, after, h, hbefore, -, rfl⟩
            -- the part in front spells nothing, so nothing stands before the part that is reported
            cases before with
            | nil => rw [(List.cons.inj h).1]
            | cons r before =>
                obtain rfl := (List.cons.inj h).1
                obtain ⟨b, hb⟩ := hbefore p List.mem_cons_self
                exact absurd hb (hnone b)
      | ok b =>
          have hb := readEntry_eq_ok_iff.mp hp
          have hrest : (readEntries ps).map (b :: ·) = .error e ↔ readEntries ps = .error e := by
            cases readEntries ps <;> simp [Except.map]
          dsimp only
          rw [hrest, ih]
          constructor
          · rintro ⟨before, q, after, rfl, hbefore, hq⟩
            exact ⟨p :: before, q, after, rfl, List.forall_mem_cons.mpr ⟨⟨b, hb⟩, hbefore⟩, hq⟩
          · rintro ⟨before, q, after, h, hbefore, hq, he⟩
            cases before with
            | nil =>
                obtain rfl := (List.cons.inj h).1
                exact absurd hb (hq b)
            | cons r before =>
                obtain ⟨rfl, hps⟩ := List.cons.inj h
                exact ⟨before, q, after, hps, (List.forall_mem_cons.mp hbefore).2, hq, he⟩

lemma exists_readEntries_eq_ok_iff : (∃ bs, readEntries ps = .ok bs) ↔ ∀ p ∈ ps, ∃ b, Spells p b := by
  constructor
  · rintro ⟨bs, hbs⟩ p hp
    exact exists_spells_of_mem (readEntries_eq_ok_iff.mp hbs) hp
  · intro hall
    cases hread : readEntries ps with
    | ok bs => exact ⟨bs, rfl⟩
    | error e =>
        obtain ⟨before, p, after, rfl, -, hnone, -⟩ := readEntries_eq_error_iff.mp hread
        obtain ⟨b, hb⟩ := hall p (List.mem_append_right before List.mem_cons_self)
        exact absurd hb (hnone b)

/-! ### Texts -/

/-- With commas between them, spellings are parts again. -/
lemma splitOn_intercalate_of_spells (hne : bs ≠ []) (h : List.Forall₂ Spells ps bs) :
    splitOn ',' ([','].intercalate ps) = ps := by
  have hps : ps ≠ [] := by
    rintro rfl
    exact hne (List.forall₂_nil_left_iff.mp h)
  have hclean : ∀ p ∈ ps, ',' ∉ p := by
    intro p hp
    obtain ⟨b, hb⟩ := exists_spells_of_mem h hp
    exact hb.notMem_comma
  exact (isCut_iff.mp ⟨hps, hclean, rfl⟩).symm

/-- Each text is cut at its commas in just one way, into one part more than it has commas. It is read if
and only if every part spells a selection, and then there is a selection for each part, which is `true`
just if the part in its place spells this. Otherwise the message names the first part that spells nothing,
as it was compared: in lower case, and without the blanks around it. And however selections are spelt, they
are read back when there are commas between them. -/
theorem selections_keep_their_places :
    (∀ s : String, ∃ parts, IsCut ',' s.toList parts ∧
      (∀ others, IsCut ',' s.toList others → others = parts) ∧
      ((∃ bs, read s = .ok bs) ↔ ∀ p ∈ parts, ∃ b, Spells p b) ∧
      (∀ bs, read s = .ok bs → bs.length = s.toList.count ',' + 1 ∧ bs.length = parts.length ∧
        ∀ (i : ℕ) p, parts[i]? = some p → (bs[i]? = some true ↔ Spells p true)) ∧
      ∀ e, read s = .error e ↔ ∃ before p after t, parts = before ++ p :: after ∧
        (∀ q ∈ before, ∃ b, Spells q b) ∧ (∀ b, ¬ Spells p b) ∧ Pads p t ∧ IsBare t ∧
        e = lowercase t ∧ message e = "invalid selection entry: " ++ String.ofList (lowercase t)) ∧
    ∀ (bs : List Bool) (ps : List (List Char)), bs ≠ [] → List.Forall₂ Spells ps bs →
      read (String.ofList ([','].intercalate ps)) = .ok bs := by
  refine ⟨fun s => ⟨splitOn ',' s.toList, isCut_iff.mpr rfl, fun _ => isCut_iff.mp,
    exists_readEntries_eq_ok_iff, fun bs hbs => ?_, fun e => ?_⟩, fun bs ps hne hspells => ?_⟩
  · have hspells := readEntries_eq_ok_iff.mp hbs
    refine ⟨by rw [← hspells.length_eq, length_splitOn], hspells.length_eq.symm, fun i p hp => ?_⟩
    obtain ⟨b, hb, hspelt⟩ := exists_getElem?_of_forall₂ hspells hp
    rw [hb, Option.some.injEq]
    exact ⟨fun h => h ▸ hspelt, fun h => hspelt.unique h⟩
  · have hmessage : message e = "invalid selection entry: " ++ String.ofList e := rfl
    rw [read, readEntries_eq_error_iff]
    constructor
    · rintro ⟨before, p, after, hparts, hbefore, hnone, rfl⟩
      exact ⟨before, p, after, trim p, hparts, hbefore, hnone, pads_trim p, isBare_trim p, rfl, hmessage⟩
    · rintro ⟨before, p, after, t, hparts, hbefore, hnone, hpads, hbare, rfl, -⟩
      refine ⟨before, p, after, hparts, hbefore, hnone, ?_⟩
      rw [normal, trim_eq_iff.mpr ⟨hpads, hbare⟩]
  · rw [read, String.toList_ofList, splitOn_intercalate_of_spells hne hspells, readEntries_eq_ok_iff]
    exact hspells

/-- Blanks, capital letters and an empty part in front of the end move no selection; and of two parts that
spell nothing the first one is named. -/
theorem selections_keep_their_places_of_blanks :
    read "X ,\u00a0TRUE\u3000,, 0" = .ok [true, true, false, false] ∧
      ∃ e, read "1, Yes,no" = .error e ∧ message e = "invalid selection entry: yes" := by
  obtain ⟨hread, hjoin⟩ := selections_keep_their_places
  constructor
  · refine hjoin [true, true, false, false]
      ["X ".toList, "\u00a0TRUE\u3000".toList, [], " 0".toList] (by decide) ?_
    simp only [List.forall₂_cons, List.forall₂_nil_left_iff, spells_iff]
    decide
  · obtain ⟨parts, hcut, -, -, -, herror⟩ := hread "1, Yes,no"
    obtain rfl : parts = ["1".toList, " Yes".toList, "no".toList] := isCut_iff.mp hcut
    have hbare : IsBare "Yes".toList := ⟨by rintro _ ⟨⟩; rfl, by rintro _ ⟨⟩; rfl⟩
    refine ⟨"yes".toList, (herror _).mpr ⟨["1".toList], " Yes".toList, ["no".toList], "Yes".toList, rfl,
      ?_, ?_, .of_eq [' '] [] rfl rfl rfl, hbare, by decide, rfl⟩, rfl⟩
    · exact List.forall_mem_singleton.mpr ⟨true, spells_iff.mpr (by decide)⟩
    · intro b
      rw [spells_iff]
      cases b <;> decide

end Selection

end ChainElection
