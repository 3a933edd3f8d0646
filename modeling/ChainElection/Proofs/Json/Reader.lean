import Mathlib.Tactic
import ChainElection.Json.Decoder
import ChainElection.Proofs.Json.Text

/-!
Reading JSON that was written here.

Values are written without blanks, their strings in raw form and without
numbers. A reader takes such a value off the front and hands back what stands
behind it.

* `IsPlain` tells such values; `isPlain_ofText` and `isPlain_ofMembers` are how
  they come about.
* `readValue_render`, `read_render`: they read back.
* `isText_render`, `decodeText_text`: they are text, and a decoder of a text
  meets the value that was written.
* `asParsed_ofText`, `items_map`, `foldMembers_cons`: what decoders make of it.
* `ReadsAs`: the values of a kind are read as something, and in `ReadsBack` as
  themselves. `list`, `option` of both: so are lists of them, and those that may
  be missing.
-/

namespace ChainElection.Json

/-! ### Plain values -/

/-- The bytes are the raw form of some text. -/
def IsRaw (raw : List UInt8) : Prop := ∃ s, raw = escape s

mutual

/-- A value without numbers whose strings are raw forms of texts. -/
def IsPlain : Json → Prop
  | .null => True
  | .bool _ => True
  | .number _ => False
  | .string raw => IsRaw raw
  | .array items => ArePlain items
  | .object members => ArePlainMembers members
  | .broken => False

/-- All items are plain. -/
def ArePlain : List Json → Prop
  | [] => True
  | j :: r => IsPlain j ∧ ArePlain r

/-- All members have raw keys and plain values. -/
def ArePlainMembers : List (List UInt8 × Json) → Prop
  | [] => True
  | m :: r => IsRaw m.1 ∧ IsPlain m.2 ∧ ArePlainMembers r

end

lemma isPlain_ofText (s : String) : IsPlain (ofText s) := ⟨s, rfl⟩

lemma isPlain_array {js : List Json} (h : ∀ j ∈ js, IsPlain j) : IsPlain (.array js) := by
  rw [IsPlain]
  induction js with
  | nil => exact trivial
  | cons j r ih => exact ⟨h j List.mem_cons_self, ih fun k hk => h k (List.mem_cons_of_mem j hk)⟩

lemma isPlain_ofMembers {ms : List (String × Json)} (h : ∀ m ∈ ms, IsPlain m.2) :
    IsPlain (ofMembers ms) := by
  rw [ofMembers, IsPlain]
  induction ms with
  | nil => exact trivial
  | cons m r ih =>
      exact ⟨⟨m.1, rfl⟩, h m List.mem_cons_self, ih fun k hk => h k (List.mem_cons_of_mem m hk)⟩

/-! ### Bytes at the front -/

lemma skipSpace_cons {b : UInt8} (h : isSpace b = false) (s : List UInt8) :
    skipSpace (b :: s) = b :: s := by
  rw [skipSpace, List.dropWhile_cons, h]
  rfl

/-- A plain value begins with a byte that is no blank and closes nothing. -/
lemma render_front {j : Json} (h : IsPlain j) :
    ∃ b t, j.render = b :: t ∧ isSpace b = false ∧ b ≠ 0x5d := by
  cases j with
  | null => exact ⟨_, _, rfl, by decide, by decide⟩
  | bool b => cases b <;> exact ⟨_, _, rfl, by decide, by decide⟩
  | string raw => exact ⟨_, _, rfl, by decide, by decide⟩
  | array items => exact ⟨_, _, rfl, by decide, by decide⟩
  | object members => exact ⟨_, _, rfl, by decide, by decide⟩
  | number _ => exact h.elim
  | broken => exact h.elim

/-! ### One value -/

section Value

variable {fuel : ℕ} {r s : List UInt8}

lemma takeWord_append (word r : List UInt8) : takeWord word (word ++ r) = some r := by
  induction word with
  | nil => rfl
  | cons w ws ih =>
      rw [List.cons_append, takeWord, if_pos rfl, ih]

lemma readValue_null : readValue (fuel + 1) (nullWord ++ r) = (.null, some r) := by
  have h : readWord nullWord .null (nullWord ++ r) = (.null, some r) := by
    rw [readWord, takeWord_append]
  exact h

lemma readValue_true : readValue (fuel + 1) (trueWord ++ r) = (.bool true, some r) := by
  have h : readWord trueWord (.bool true) (trueWord ++ r) = (.bool true, some r) := by
    rw [readWord, takeWord_append]
  exact h

lemma readValue_false : readValue (fuel + 1) (falseWord ++ r) = (.bool false, some r) := by
  have h : readWord falseWord (.bool false) (falseWord ++ r) = (.bool false, some r) := by
    rw [readWord, takeWord_append]
  exact h

lemma readValue_string {raw : List UInt8} (h : scan s = some (raw, r)) :
    readValue (fuel + 1) (quote :: s) = (.string raw, some r) := by
  rw [readValue, skipSpace_cons (by decide)]
  simp only [if_neg (show quote ≠ 0x6e by decide), if_neg (show quote ≠ 0x74 by decide),
    if_neg (show quote ≠ 0x66 by decide), if_true, h]

lemma readValue_array_nil : readValue (fuel + 1) (0x5b :: 0x5d :: r) = (.array [], some r) := rfl

lemma readValue_array {b : UInt8} (hspace : isSpace b = false) (hb : b ≠ 0x5d) {js : List Json}
    (h : readItems fuel (b :: s) = (js, some r)) :
    readValue (fuel + 1) (0x5b :: b :: s) = (.array js, some r) := by
  rw [readValue, skipSpace_cons (by decide)]
  simp only [quote, if_neg (show (0x5b : UInt8) ≠ 0x6e by decide),
    if_neg (show (0x5b : UInt8) ≠ 0x74 by decide), if_neg (show (0x5b : UInt8) ≠ 0x66 by decide),
    if_neg (show (0x5b : UInt8) ≠ 0x22 by decide), if_true, skipSpace_cons hspace]
  split
  · rename_i heq
    exact absurd (List.cons.inj heq).1 hb
  · rw [h]

lemma readValue_object_nil : readValue (fuel + 1) (0x7b :: 0x7d :: r) = (.object [], some r) := rfl

lemma readValue_object {ms : List (List UInt8 × Json)}
    (h : readMembers fuel (quote :: s) = (ms, some r)) :
    readValue (fuel + 1) (0x7b :: quote :: s) = (.object ms, some r) := by
  have hvalue : readValue (fuel + 1) (0x7b :: quote :: s) =
      (.object (readMembers fuel (quote :: s)).1, (readMembers fuel (quote :: s)).2) := rfl
  rw [hvalue, h]

/-! ### Items and members -/

lemma readItems_last {j : Json} (h : readValue fuel s = (j, some (0x5d :: r))) :
    readItems (fuel + 1) s = ([j], some r) := by
  rw [readItems, h]
  rfl

lemma readItems_more {j : Json} {js : List Json} {s' : List UInt8}
    (h : readValue fuel s = (j, some (0x2c :: s'))) (h' : readItems fuel s' = (js, some r)) :
    readItems (fuel + 1) s = (j :: js, some r) := by
  have hitems : readItems (fuel + 1) s =
      (j :: (readItems fuel s').1, (readItems fuel s').2) := by
    rw [readItems, h]
    rfl
  rw [hitems, h']

lemma readMembers_last {key : List UInt8} {j : Json} {s' : List UInt8}
    (hkey : scan s = some (key, 0x3a :: s')) (h : readValue fuel s' = (j, some (0x7d :: r))) :
    readMembers (fuel + 1) (quote :: s) = ([(key, j)], some r) := by
  rw [readMembers, skipSpace_cons (by decide)]
  simp only [if_true, hkey, skipSpace_cons (show isSpace 0x3a = false by decide), h,
    skipSpace_cons (show isSpace 0x7d = false by decide)]

lemma readMembers_more {key : List UInt8} {j : Json} {ms : List (List UInt8 × Json)}
    {s' s'' : List UInt8} (hkey : scan s = some (key, 0x3a :: s'))
    (h : readValue fuel s' = (j, some (0x2c :: s''))) (h' : readMembers fuel s'' = (ms, some r)) :
    readMembers (fuel + 1) (quote :: s) = ((key, j) :: ms, some r) := by
  rw [readMembers, skipSpace_cons (by decide)]
  simp only [if_true, hkey, skipSpace_cons (show isSpace 0x3a = false by decide), h,
    skipSpace_cons (show isSpace 0x2c = false by decide), h']

end Value

/-! ### Whole values -/

lemma scan_raw {raw : List UInt8} (h : IsRaw raw) (r : List UInt8) :
    scan (raw ++ quote :: r) = some (raw, r) := by
  obtain ⟨s, rfl⟩ := h
  exact scan_escape s r

lemma renderItems_front {j : Json} (h : IsPlain j) (js : List Json) :
    ∃ b t, renderItems (j :: js) = b :: t ∧ isSpace b = false ∧ b ≠ 0x5d := by
  obtain ⟨b, t, hb, hspace, hne⟩ := render_front h
  cases js with
  | nil => exact ⟨b, t, by simp [renderItems, hb], hspace, hne⟩
  | cons k js => exact ⟨b, t ++ 0x2c :: renderItems (k :: js), by simp [renderItems, hb], hspace, hne⟩

lemma renderMembers_front (m : List UInt8 × Json) (ms : List (List UInt8 × Json)) :
    ∃ t, renderMembers (m :: ms) = quote :: t := by
  cases ms with
  | nil => exact ⟨m.1 ++ quote :: 0x3a :: m.2.render, by simp [renderMembers]⟩
  | cons n ms =>
      exact ⟨m.1 ++ quote :: 0x3a :: m.2.render ++ 0x2c :: renderMembers (n :: ms),
        by simp [renderMembers]⟩

mutual

/-- A plain value is taken off the front, whatever stands behind it. -/
theorem readValue_render (j : Json) (hj : IsPlain j) (fuel : ℕ) (r : List UInt8)
    (hfuel : 2 * j.render.length ≤ fuel) : readValue fuel (j.render ++ r) = (j, some r) := by
  cases j with
  | null =>
      obtain ⟨fuel, rfl⟩ : ∃ k, fuel = k + 1 := ⟨fuel - 1, by simp [render, nullWord] at hfuel; omega⟩
      exact readValue_null
  | bool b =>
      cases b with
      | true =>
          obtain ⟨fuel, rfl⟩ : ∃ k, fuel = k + 1 :=
            ⟨fuel - 1, by simp [render, trueWord] at hfuel; omega⟩
          exact readValue_true
      | false =>
          obtain ⟨fuel, rfl⟩ : ∃ k, fuel = k + 1 :=
            ⟨fuel - 1, by simp [render, falseWord] at hfuel; omega⟩
          exact readValue_false
  | number _ => exact hj.elim
  | broken => exact hj.elim
  | string raw =>
      obtain ⟨fuel, rfl⟩ : ∃ k, fuel = k + 1 := ⟨fuel - 1, by simp [render] at hfuel; omega⟩
      have hscan := scan_raw hj r
      rw [render, List.cons_append, List.cons_append, List.append_assoc]
      exact readValue_string hscan
  | array items =>
      obtain ⟨fuel, rfl⟩ : ∃ k, fuel = k + 1 := ⟨fuel - 1, by simp [render] at hfuel; omega⟩
      cases items with
      | nil => exact readValue_array_nil
      | cons k items =>
          have hitems := readItems_render k items hj fuel r (by
            simp [render] at hfuel
            omega)
          obtain ⟨b, t, hb, hspace, hne⟩ := renderItems_front hj.1 items
          rw [hb, List.cons_append] at hitems
          rw [render, List.cons_append, List.cons_append, List.append_assoc, hb]
          exact readValue_array hspace hne hitems
  | object members =>
      obtain ⟨fuel, rfl⟩ : ∃ k, fuel = k + 1 := ⟨fuel - 1, by simp [render] at hfuel; omega⟩
      cases members with
      | nil => exact readValue_object_nil
      | cons m members =>
          have hmembers := readMembers_render m members hj fuel r (by
            simp [render] at hfuel
            omega)
          obtain ⟨t, ht⟩ := renderMembers_front m members
          rw [ht, List.cons_append] at hmembers
          rw [render, List.cons_append, List.cons_append, List.append_assoc, ht]
          exact readValue_object hmembers
termination_by fuel

/-- Plain items are taken off the front, up to the bracket behind them. -/
theorem readItems_render (j : Json) (js : List Json) (hj : ArePlain (j :: js)) (fuel : ℕ)
    (r : List UInt8) (hfuel : 2 * (renderItems (j :: js)).length + 1 ≤ fuel) :
    readItems fuel (renderItems (j :: js) ++ 0x5d :: r) = (j :: js, some r) := by
  obtain ⟨fuel, rfl⟩ : ∃ k, fuel = k + 1 := ⟨fuel - 1, by omega⟩
  cases js with
  | nil =>
      have hvalue := readValue_render j hj.1 fuel (0x5d :: r) (by
        simp [renderItems] at hfuel
        omega)
      exact readItems_last hvalue
  | cons k js =>
      have hvalue := readValue_render j hj.1 fuel (0x2c :: (renderItems (k :: js) ++ 0x5d :: r)) (by
        simp [renderItems] at hfuel
        omega)
      have hitems := readItems_render k js hj.2 fuel r (by
        simp [renderItems] at hfuel
        omega)
      rw [renderItems, List.append_assoc, List.cons_append]
      · exact readItems_more hvalue hitems
      · simp
termination_by fuel

/-- Plain members are taken off the front, up to the brace behind them. -/
theorem readMembers_render (m : List UInt8 × Json) (ms : List (List UInt8 × Json))
    (hm : ArePlainMembers (m :: ms)) (fuel : ℕ) (r : List UInt8)
    (hfuel : 2 * (renderMembers (m :: ms)).length + 1 ≤ fuel) :
    readMembers fuel (renderMembers (m :: ms) ++ 0x7d :: r) = (m :: ms, some r) := by
  obtain ⟨fuel, rfl⟩ : ∃ k, fuel = k + 1 := ⟨fuel - 1, by omega⟩
  obtain ⟨key, j⟩ := m
  cases ms with
  | nil =>
      have hvalue := readValue_render j hm.2.1 fuel (0x7d :: r) (by
        simp [renderMembers] at hfuel
        omega)
      rw [renderMembers]
      simp only [List.cons_append, List.append_assoc]
      exact readMembers_last (scan_raw hm.1 _) hvalue
  | cons n ms =>
      have hvalue := readValue_render j hm.2.1 fuel (0x2c :: (renderMembers (n :: ms) ++ 0x7d :: r)) (by
        simp [renderMembers] at hfuel
        omega)
      have hmembers := readMembers_render n ms hm.2.2 fuel r (by
        simp [renderMembers] at hfuel
        omega)
      rw [renderMembers]
      · simp only [List.cons_append, List.append_assoc]
        exact readMembers_more (scan_raw hm.1 _) hvalue hmembers
      · simp
termination_by fuel

end

/-- A plain value reads back, and nothing is left behind it. -/
theorem read_render {j : Json} (hj : IsPlain j) : read j.render = (j, true) := by
  have h := readValue_render j hj (2 * j.render.length + 2) [] (by omega)
  rw [List.append_nil] at h
  rw [read, h]
  rfl

/-! ### Values as texts -/

lemma IsRaw.isText {raw : List UInt8} (h : IsRaw raw) : Utf8.IsText raw := by
  obtain ⟨s, rfl⟩ := h
  exact isText_escape s

lemma isText_singleton {b : UInt8} (h : b.toNat < 0x80) : Utf8.IsText [b] :=
  Utf8.isText_of_ascii fun x hx => by rwa [List.mem_singleton.mp hx]

mutual

/-- A plain value is text. -/
theorem isText_render (j : Json) (hj : IsPlain j) : Utf8.IsText j.render := by
  cases j with
  | null => exact Utf8.isText_of_ascii (by simp [render, nullWord])
  | bool b => cases b <;> exact Utf8.isText_of_ascii (by simp [render, trueWord, falseWord])
  | number _ => exact hj.elim
  | broken => exact hj.elim
  | string raw =>
      have hquote : Utf8.IsText [quote] := isText_singleton (by decide)
      exact (hquote.append (IsRaw.isText hj)).append hquote
  | array items =>
      have hopen : Utf8.IsText [0x5b] := isText_singleton (by decide)
      have hclose : Utf8.IsText [0x5d] := isText_singleton (by decide)
      exact (hopen.append (isText_renderItems items hj)).append hclose
  | object members =>
      have hopen : Utf8.IsText [0x7b] := isText_singleton (by decide)
      have hclose : Utf8.IsText [0x7d] := isText_singleton (by decide)
      exact (hopen.append (isText_renderMembers members hj)).append hclose
termination_by sizeOf j

/-- Plain items are text. -/
theorem isText_renderItems (js : List Json) (hj : ArePlain js) : Utf8.IsText (renderItems js) := by
  match js, hj with
  | [], _ => exact Utf8.isText_nil
  | [j], hj =>
      rw [renderItems]
      exact isText_render j hj.1
  | j :: k :: js, hj =>
      have hcomma : Utf8.IsText [0x2c] := isText_singleton (by decide)
      have hrest := hcomma.append (isText_renderItems (k :: js) hj.2)
      rw [renderItems]
      · exact (isText_render j hj.1).append hrest
      · simp
termination_by sizeOf js

/-- Plain members are text. -/
theorem isText_renderMembers (ms : List (List UInt8 × Json)) (hm : ArePlainMembers ms) :
    Utf8.IsText (renderMembers ms) := by
  have hquote : Utf8.IsText [quote] := isText_singleton (by decide)
  have hcolon : Utf8.IsText [quote, 0x3a] := Utf8.isText_of_ascii (by simp [quote])
  have hcomma : Utf8.IsText [0x2c] := isText_singleton (by decide)
  match ms, hm with
  | [], _ => exact Utf8.isText_nil
  | [(key, j)], hm =>
      have hkey := (hquote.append (IsRaw.isText hm.1)).append hcolon
      rw [renderMembers]
      simpa using hkey.append (isText_render j hm.2.1)
  | (key, j) :: n :: ms, hm =>
      have hkey := (hquote.append (IsRaw.isText hm.1)).append hcolon
      have hrest := hcomma.append (isText_renderMembers (n :: ms) hm.2.2)
      rw [renderMembers]
      · simpa using (hkey.append (isText_render j hm.2.1)).append hrest
      · simp
termination_by sizeOf ms

end

/-- A decoder of bytes meets the value that was written. -/
theorem decode_render {α : Type} (d : Decoder α) {j : Json} (hj : IsPlain j) : decode d j.render = d j := by
  rw [decode, read_render hj]
  cases hd : d j <;> simp [hd]

/-- So does a decoder of a text. -/
theorem decodeText_text {α : Type} (d : Decoder α) {j : Json} (hj : IsPlain j) :
    decodeText d j.text = d j := by
  rw [decodeText, text, (isText_render j hj).ofString_toString?, decode_render d hj]

/-! ### Decoders of what was written -/

/-- A text is decoded as it is. -/
@[simp] lemma asText_ofText (s : String) : asText (ofText s) = .ok s := by
  rw [ofText, asText, text?_escape]

lemma asParsed_ofText {α : Type} {parse : String → Option α} {s : String} {a : α}
    (h : parse s = some a) : asParsed parse (ofText s) = .ok a := by
  rw [asParsed, asText_ofText]
  simp only [h]

/-- A list of like values is decoded if each of them is. -/
lemma items_map {α β : Type} {d : Decoder β} {f : α → Json} {g : α → β} (h : ∀ a, d (f a) = .ok (g a))
    (as : List α) : items d (as.map f) = .ok (as.map g) := by
  induction as with
  | nil => rfl
  | cons a as ih =>
      rw [List.map_cons, items, h a, ih]
      rfl

lemma foldMembers_cons {σ : Type} {step : String → Json → σ → Except Fault σ} {s t : σ}
    {key : String} {j : Json} (h : step key j s = .ok t) (r : List (List UInt8 × Json)) :
    foldMembers step s ((escape key, j) :: r) = foldMembers step t r := by
  rw [foldMembers, text?_escape]
  simp only [h]

lemma fill_none {α : Type} {d : Decoder α} {j : Json} {a : α} (h : d j = .ok a) :
    fill d none j = .ok (some a) := by
  rw [fill, h]
  rfl

/-! ### Forms that read back -/

/-- The values are written in a form that is decoded to something. -/
structure ReadsAs {α β : Type} (d : Decoder β) (f : α → Json) (g : α → β) : Prop where
  isPlain : ∀ a, IsPlain (f a)
  decoded : ∀ a, d (f a) = .ok (g a)

namespace ReadsAs

variable {α β : Type} {d : Decoder β} {f : α → Json} {g : α → β}

/-- A value is decoded from the bytes of its form. -/
theorem render (h : ReadsAs d f g) (a : α) : Json.decode d (f a).render = .ok (g a) := by
  rw [decode_render d (h.isPlain a), h.decoded]

/-- So it is from the text of its form. -/
theorem text (h : ReadsAs d f g) (a : α) : decodeText d (f a).text = .ok (g a) := by
  rw [decodeText_text d (h.isPlain a), h.decoded]

/-- Lists are read if their items are. -/
lemma list (h : ReadsAs d f g) : ReadsAs (asList d) (fun as => .array (as.map f)) (List.map g) where
  isPlain as := by
    refine isPlain_array fun j hj => ?_
    obtain ⟨a, -, rfl⟩ := List.mem_map.mp hj
    exact h.isPlain a
  decoded := items_map h.decoded

/-- Values that may be missing are read, as long as none looks like one that is missing. -/
lemma option (h : ReadsAs d f g) (hnull : ∀ a, f a ≠ .null) :
    ReadsAs (asOption d) (ofOption f) (Option.map g) where
  isPlain o := by
    cases o with
    | none => exact trivial
    | some a => exact h.isPlain a
  decoded o := by
    cases o with
    | none => rfl
    | some a =>
        have hsome : asOption d (f a) = (d (f a)).map some := by
          rw [asOption.eq_def]
          split
          · rename_i heq
            exact absurd heq (hnull a)
          · rfl
        rw [ofOption, hsome, h.decoded]
        rfl

end ReadsAs

/-- The values are written in a form that they are decoded from again. -/
def ReadsBack {α : Type} (d : Decoder α) (f : α → Json) : Prop := ReadsAs d f id

lemma readsBack_ofText : ReadsBack asText ofText := ⟨isPlain_ofText, asText_ofText⟩

namespace ReadsBack

variable {α : Type} {d : Decoder α} {f : α → Json}

theorem text (h : ReadsBack d f) (a : α) : decodeText d (f a).text = .ok a := ReadsAs.text h a

lemma option (h : ReadsBack d f) (hnull : ∀ a, f a ≠ .null) : ReadsBack (asOption d) (ofOption f) := by
  have hoption := ReadsAs.option h hnull
  rwa [Option.map_id] at hoption

end ReadsBack

lemma readsBack_ofOption_ofText : ReadsBack (asOption asText) (ofOption ofText) :=
  readsBack_ofText.option fun _ => nofun

end ChainElection.Json
