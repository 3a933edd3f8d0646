import Mathlib.Tactic
import ChainElection.Binary.Codec
import ChainElection.Proofs.Text.Utf8

/-!
Codecs that tell values apart.

* `Codec.IsStrict`: the codec is exact, and what is written breaks off nowhere
  to something that could be read; a proper part of it is too short.
* `IsStrict.pair`, `IsStrict.rename`, `IsStrict.list`, `IsStrict.option` give it
  for every codec that is put together.
* `isStrict_block`, `isStrict_number`, `isStrict_bool`, `isStrict_bytes`,
  `isStrict_text`: the single values.
-/

namespace ChainElection.Binary.Codec

variable {α β : Type} {a : Codec α} {b : Codec β} {c : Codec α} {s p q r : List UInt8}

/-- The codec is exact, and a proper part of what is written is too short to be read. -/
structure IsStrict (c : Codec α) : Prop extends IsExact c where
  decode_part : ∀ v p q, c.Fits v → c.encode v = p ++ q → q ≠ [] → c.decode p = .error .tooShort

/-! ### Parts of bytes -/

/-- A proper part of two pieces ends in the first of them, or in the second. -/
lemma part_cases {x y : List UInt8} (h : x ++ y = p ++ q) :
    (∃ t, x = p ++ t ∧ t ≠ []) ∨ ∃ t, p = x ++ t ∧ y = t ++ q := by
  rcases List.append_eq_append_iff.mp h with ⟨t, hp, hy⟩ | ⟨t, hx, hqt⟩
  · exact .inr ⟨t, hp, hy⟩
  · by_cases ht : t = []
    · subst ht
      exact .inr ⟨[], by simpa using hx.symm, by simpa using hqt.symm⟩
    · exact .inl ⟨t, hx, ht⟩

lemma takeBytes_of_lt {n : ℕ} (h : s.length < n) : takeBytes n s = .error .tooShort := by
  rw [takeBytes, if_neg (by omega)]

/-- Bytes that break off are not taken. -/
lemma takeBytes_part {n : ℕ} {x : List UInt8} (hlength : x.length = n) (h : x = p ++ q) (hq : q ≠ []) :
    takeBytes n p = .error .tooShort := by
  refine takeBytes_of_lt ?_
  have hpos := List.length_pos_iff.mpr hq
  rw [← hlength, h, List.length_append]
  omega

/-! ### Pairs and names -/

theorem IsStrict.pair (ha : a.IsStrict) (hb : b.IsStrict) : (pair a b).IsStrict where
  toIsExact := ha.toIsExact.pair hb.toIsExact
  decode_part v p q hv h hq := by
    rcases part_cases h with ⟨t, hx, ht⟩ | ⟨t, rfl, hy⟩
    · simp only [Codec.pair, ha.decode_part _ _ _ hv.1 hx ht]
    · simp only [Codec.pair, ha.decode_encode _ hv.1, hb.decode_part _ _ _ hv.2 hy hq]

theorem IsStrict.rename {f : α → β} {g : β → α} (hc : c.IsStrict) (hfg : ∀ v, f (g v) = v)
    (hgf : ∀ v, g (f v) = v) : (rename c f g).IsStrict where
  toIsExact := hc.toIsExact.rename hfg hgf
  decode_part v p q hv h hq := by
    simp only [Codec.rename, hc.decode_part _ _ _ hv h hq, Except.map]

/-! ### Single values -/

theorem isStrict_block : block.IsStrict where
  toIsExact := isExact_block
  decode_part v p q _ h hq := by
    simp only [block, takeBytes_part v.length_eq h hq]

theorem isStrict_number (width : ℕ) : (number width).IsStrict where
  toIsExact := isExact_number width
  decode_part n p q _ h hq := by
    simp only [number, takeBytes_part (length_littleEndian width n) h hq, Except.map]

theorem isStrict_word64 : word64.IsStrict where
  toIsExact := isExact_word64
  decode_part v p q _ h hq := by
    simp only [word64, (isStrict_number 8).decode_part _ _ _ v.toNat_lt h hq, Except.map]

theorem isStrict_word32 : word32.IsStrict where
  toIsExact := isExact_word32
  decode_part v p q _ h hq := by
    simp only [word32, (isStrict_number 4).decode_part _ _ _ v.toNat_lt h hq, Except.map]

/-- What is written in one byte has only the empty part. -/
lemma part_of_singleton {x : UInt8} (h : [x] = p ++ q) (hq : q ≠ []) : p = [] := by
  rcases List.append_eq_singleton_iff.mp h.symm with ⟨hp, -⟩ | ⟨-, hnil⟩
  · exact hp
  · exact absurd hnil hq

theorem isStrict_bool : bool.IsStrict where
  decode_encode v _ r := by cases v <;> rfl
  eq_encode s v r h := by
    cases s with
    | nil => cases h
    | cons x s =>
        simp only [bool] at h
        split_ifs at h with hzero hone
        · cases h
          exact ⟨trivial, by rw [hzero]; rfl⟩
        · cases h
          exact ⟨trivial, by rw [hone]; rfl⟩
  decode_part v p q _ h hq := by
    rw [part_of_singleton h hq]
    rfl

/-! ### Bytes and texts -/

/-- A length that fits is taken off the front. -/
lemma decode_length {n : ℕ} (h : n < UInt32.size) (r : List UInt8) :
    (number 4).decode ((number 4).encode n ++ r) = .ok (n, r) := (isExact_number 4).decode_encode n h r

/-- A length that is taken off the front fits. -/
lemma length_of_decode {n : ℕ} (h : (number 4).decode s = .ok (n, r)) :
    n < UInt32.size ∧ s = (number 4).encode n ++ r := (isExact_number 4).eq_encode s n r h

theorem isStrict_bytes : bytes.IsStrict where
  decode_encode v hv r := by
    simp only [bytes, List.append_assoc, decode_length hv, takeBytes_append rfl]
  eq_encode s v r h := by
    simp only [bytes] at h
    split at h
    · cases h
    · rename_i n t hn
      obtain ⟨hfits, rfl⟩ := length_of_decode hn
      obtain ⟨rfl, rfl⟩ := takeBytes_eq_ok h
      exact ⟨hfits, (List.append_assoc ..).symm⟩
  decode_part v p q hv h hq := by
    rcases part_cases h with ⟨t, hx, ht⟩ | ⟨t, rfl, hy⟩
    · simp only [bytes, (isStrict_number 4).decode_part _ _ _ hv hx ht]
    · simp only [bytes, decode_length hv, takeBytes_part rfl hy hq]

theorem isStrict_text : text.IsStrict where
  decode_encode v hv r := by
    simp only [text, isStrict_bytes.decode_encode _ hv]
    rw [Utf8.ofString, Utf8.decode_encode]
    simp only [String.ofList_toList]
  eq_encode s v r h := by
    simp only [text] at h
    split at h
    · cases h
    · rename_i bs t hbytes
      obtain ⟨hfits, rfl⟩ := isStrict_bytes.eq_encode _ _ _ hbytes
      split at h
      · cases h
      · rename_i cs hcs
        cases h
        have hbs : Utf8.ofString (String.ofList cs) = bs := by
          rw [Utf8.ofString, String.toList_ofList, Utf8.eq_encode_of_decode hcs]
        refine ⟨?_, ?_⟩
        · show (Utf8.ofString (String.ofList cs)).length < UInt32.size
          rw [hbs]
          exact hfits
        · show _ = bytes.encode (Utf8.ofString (String.ofList cs)) ++ _
          rw [hbs]
  decode_part v p q hv h hq := by
    simp only [text, isStrict_bytes.decode_part _ _ _ hv h hq]

/-! ### Lists -/

lemma decodeMany_append (hc : c.IsExact) {xs : List α} (hxs : ∀ x ∈ xs, c.Fits x) (r : List UInt8) :
    decodeMany c xs.length (xs.flatMap c.encode ++ r) = .ok (xs, r) := by
  induction xs with
  | nil => rfl
  | cons x xs ih =>
      rw [List.forall_mem_cons] at hxs
      simp only [List.length_cons, decodeMany, List.flatMap_cons, List.append_assoc,
        hc.decode_encode x hxs.1, ih hxs.2]

lemma eq_flatMap_of_decodeMany (hc : c.IsExact) {n : ℕ} {xs : List α}
    (h : decodeMany c n s = .ok (xs, r)) :
    xs.length = n ∧ (∀ x ∈ xs, c.Fits x) ∧ s = xs.flatMap c.encode ++ r := by
  induction n generalizing s xs with
  | zero =>
      cases h
      simp
  | succ n ih =>
      rw [decodeMany] at h
      split at h
      · cases h
      · rename_i x t hx
        obtain ⟨hfits, rfl⟩ := hc.eq_encode _ _ _ hx
        split at h
        · cases h
        · rename_i ys t' hys
          cases h
          obtain ⟨rfl, hall, rfl⟩ := ih hys
          exact ⟨rfl, List.forall_mem_cons.mpr ⟨hfits, hall⟩, by simp⟩

lemma decodeMany_part (hc : c.IsStrict) {xs : List α} (hxs : ∀ x ∈ xs, c.Fits x)
    (h : xs.flatMap c.encode = p ++ q) (hq : q ≠ []) :
    decodeMany c xs.length p = .error .tooShort := by
  induction xs generalizing p with
  | nil =>
      rw [List.flatMap_nil] at h
      exact absurd (List.append_eq_nil_iff.mp h.symm).2 hq
  | cons x xs ih =>
      rw [List.forall_mem_cons] at hxs
      rw [List.flatMap_cons] at h
      rcases part_cases h with ⟨t, hx, ht⟩ | ⟨t, rfl, hy⟩
      · simp only [List.length_cons, decodeMany, hc.decode_part _ _ _ hxs.1 hx ht]
      · simp only [List.length_cons, decodeMany, hc.decode_encode x hxs.1, ih hxs.2 hy]

theorem IsStrict.list (hc : c.IsStrict) : (list c).IsStrict where
  decode_encode v hv r := by
    simp only [Codec.list, List.append_assoc, decode_length hv.1, decodeMany_append hc.toIsExact hv.2]
  eq_encode s v r h := by
    simp only [Codec.list] at h
    split at h
    · cases h
    · rename_i n t hn
      obtain ⟨hfits, rfl⟩ := length_of_decode hn
      obtain ⟨rfl, hall, rfl⟩ := eq_flatMap_of_decodeMany hc.toIsExact h
      exact ⟨⟨hfits, hall⟩, (List.append_assoc ..).symm⟩
  decode_part v p q hv h hq := by
    rcases part_cases h with ⟨t, hx, ht⟩ | ⟨t, rfl, hy⟩
    · simp only [Codec.list, (isStrict_number 4).decode_part _ _ _ hv.1 hx ht]
    · simp only [Codec.list, decode_length hv.1, decodeMany_part hc hv.2 hy hq]

/-! ### Values that may be absent -/

theorem IsStrict.option (hc : c.IsStrict) : (option c).IsStrict where
  decode_encode v hv r := by
    cases v with
    | none => rfl
    | some x =>
        have hx := hc.decode_encode x (hv x rfl) r
        simp [Codec.option, hx, Except.map]
  eq_encode s v r h := by
    cases s with
    | nil => cases h
    | cons x s =>
        simp only [Codec.option] at h
        split_ifs at h with hzero hone
        · cases h
          exact ⟨fun _ hx => (by cases hx), by rw [hzero]; rfl⟩
        · obtain ⟨⟨y, t⟩, hy, heq⟩ := map_eq_ok_iff.mp h
          cases heq
          obtain ⟨hfits, rfl⟩ := hc.eq_encode _ _ _ hy
          exact ⟨fun _ hx => (by cases hx; exact hfits), by rw [hone]; rfl⟩
  decode_part v p q hv h hq := by
    cases v with
    | none =>
        rw [part_of_singleton h hq]
        rfl
    | some x =>
        cases p with
        | nil => rfl
        | cons y p =>
            obtain ⟨rfl, hrest⟩ := List.cons.inj h
            have hx := hc.decode_part x p q (hv x rfl) hrest hq
            simp [Codec.option, hx, Except.map]

end ChainElection.Binary.Codec
