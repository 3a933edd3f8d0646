import Mathlib.Tactic
import ChainElection.Text.Utf8

/-!
Text as bytes, to and fro.

* `decodeFirst_encode`: the bytes of a character read back as this character,
  whatever stands behind them.
* `decode_encode`, `toString?_ofString`: a text reads back from its bytes.
* `le_of_mem_encodeChar`: only ASCII characters have bytes below `0x80`;
  `ascii_of_encode`: a text of such bytes consists of them.
* `IsText` tells the bytes of texts from other bytes.
* `eq_encode_of_decode`: bytes that are read as a text are the ones that it is
  written by.
-/

namespace ChainElection

/-- What a mapped result was before. -/
lemma map_eq_ok_iff {ε α β : Type} {f : α → β} {x : Except ε α} {b : β} :
    x.map f = .ok b ↔ ∃ a, x = .ok a ∧ f a = b := by
  cases x <;> simp [Except.map]

/-- What two steps come to, one after the other. -/
lemma bind_eq_ok_iff {ε α β : Type} {x : Except ε α} {f : α → Except ε β} {b : β} :
    x >>= f = .ok b ↔ ∃ a, x = .ok a ∧ f a = .ok b := by
  cases x <;> simp [bind, Except.bind]

/-- A result is a fault if it is no value. -/
lemma exists_eq_error_iff {ε α : Type} {x : Except ε α} :
    (∃ e, x = .error e) ↔ ∀ a, x ≠ .ok a := by
  cases x <;> simp

namespace Utf8

/-! ### Single bytes -/

lemma follow_zero {low high : UInt8} {acc v : ℕ} {s : List UInt8} (h : acc = v) :
    follow 0 low high acc s = .ok (v, s) := by
  rw [follow, h]

lemma follow_cons {n : ℕ} {low high b : UInt8} {acc : ℕ} {r : List UInt8} {x : ℕ × List UInt8}
    (hb : low ≤ b ∧ b ≤ high) (h : follow n 0x80 0xbf (acc * 0x40 + b.toNat % 0x40) r = .ok x) :
    follow (n + 1) low high acc (b :: r) = .ok x := by
  rw [follow, if_pos hb, h]

/-- A byte that follows carries six bits. -/
lemma toNat_tail (v : ℕ) : (UInt8.ofNat (v % 0x40 + 0x80)).toNat = v % 0x40 + 0x80 := by
  rw [UInt8.toNat_ofNat']
  omega

lemma tail_mod (v : ℕ) : (UInt8.ofNat (v % 0x40 + 0x80)).toNat % 0x40 = v % 0x40 := by
  rw [toNat_tail]
  omega

lemma le_tail {v : ℕ} {low : UInt8} (h : low.toNat ≤ v % 0x40 + 0x80) :
    low ≤ UInt8.ofNat (v % 0x40 + 0x80) := by
  rwa [UInt8.le_iff_toNat_le, toNat_tail]

lemma tail_le {v : ℕ} {high : UInt8} (h : v % 0x40 + 0x80 ≤ high.toNat) :
    UInt8.ofNat (v % 0x40 + 0x80) ≤ high := by
  rwa [UInt8.le_iff_toNat_le, toNat_tail]

lemma tail_mem (v : ℕ) :
    (0x80 : UInt8) ≤ UInt8.ofNat (v % 0x40 + 0x80) ∧ UInt8.ofNat (v % 0x40 + 0x80) ≤ 0xbf := by
  refine ⟨le_tail ?_, tail_le ?_⟩
  · exact Nat.le_add_left _ _
  · have hhigh : (0xbf : UInt8).toNat = 0xbf := rfl
    omega

lemma lead_one {n : ℕ} (h : n < 0x80) : lead (UInt8.ofNat n) = some (0, 0x80, 0xbf) := by
  rw [lead, if_pos]
  rw [UInt8.lt_iff_toNat_lt, UInt8.toNat_ofNat']
  have hlimit : (0x80 : UInt8).toNat = 0x80 := rfl
  omega

lemma lead_two {n : ℕ} (h : n < 0x20) (h' : 2 ≤ n) :
    lead (UInt8.ofNat (n + 0xc0)) = some (1, 0x80, 0xbf) := by
  interval_cases n <;> decide

lemma lead_three {n : ℕ} (h : n < 0x10) :
    lead (UInt8.ofNat (n + 0xe0)) =
      some (2, if n = 0 then 0xa0 else 0x80, if n = 13 then 0x9f else 0xbf) := by
  interval_cases n <;> decide

lemma lead_four {n : ℕ} (h : n ≤ 4) :
    lead (UInt8.ofNat (n + 0xf0)) =
      some (3, if n = 0 then 0x90 else 0x80, if n = 4 then 0x8f else 0xbf) := by
  interval_cases n <;> decide

lemma leadBits_two (b x : UInt8) : leadBits [x].length b = b.toNat % 0x20 := rfl

lemma leadBits_three (b x y : UInt8) : leadBits [x, y].length b = b.toNat % 0x10 := rfl

lemma leadBits_four (b x y z : UInt8) : leadBits [x, y, z].length b = b.toNat % 0x08 := rfl

/-! ### One character -/

/-- A character is no half of a surrogate pair. -/
lemma valid_toNat (c : Char) : c.val.toNat < 0xd800 ∨ 0xdfff < c.val.toNat ∧ c.val.toNat < 0x110000 :=
  c.valid

lemma decodeFirst_of_follow {b : UInt8} {r t : List UInt8} {c : Char} {n : ℕ} {low high : UInt8}
    (hlead : lead b = some (n, low, high))
    (hfollow : follow n low high (leadBits n b) r = .ok (c.val.toNat, t)) :
    decodeFirst b r = .ok (c, n + 1, t) := by
  rw [decodeFirst, hlead]
  simp only [hfollow]
  rw [show c.val.toNat = c.toNat from rfl, Char.ofNat_toNat]

/-- The bytes of a character read back as this character. -/
lemma decodeFirst_encode (c : Char) (t : List UInt8) :
    ∃ b r, String.utf8EncodeChar c = b :: r ∧
      decodeFirst b (r ++ t) = .ok (c, r.length + 1, t) := by
  have hvalid := valid_toNat c
  rw [String.utf8EncodeChar]
  generalize hv : c.val.toNat = v at hvalid ⊢
  split
  · -- one byte
    refine ⟨_, _, rfl, decodeFirst_of_follow (lead_one (by omega)) ?_⟩
    refine follow_zero ?_
    change (UInt8.ofNat v).toNat = _
    rw [UInt8.toNat_ofNat', hv, Nat.mod_eq_of_lt (by omega)]
  split
  · -- two bytes
    refine ⟨_, _, rfl, decodeFirst_of_follow (lead_two (by omega) (by omega)) ?_⟩
    refine follow_cons (tail_mem v) (follow_zero ?_)
    rw [leadBits_two, UInt8.toNat_ofNat', tail_mod, hv]
    omega
  split
  · -- three bytes
    refine ⟨_, _, rfl, decodeFirst_of_follow (lead_three (by omega)) ?_⟩
    refine follow_cons ⟨le_tail ?_, tail_le ?_⟩ ?_
    · split
      · have hlow : (0xa0 : UInt8).toNat = 0xa0 := rfl
        omega
      · exact Nat.le_add_left _ _
    · split
      · have hhigh : (0x9f : UInt8).toNat = 0x9f := rfl
        omega
      · have hhigh : (0xbf : UInt8).toNat = 0xbf := rfl
        omega
    · refine follow_cons (tail_mem v) (follow_zero ?_)
      rw [leadBits_three, UInt8.toNat_ofNat', tail_mod, tail_mod, hv]
      omega
  · -- four bytes
    refine ⟨_, _, rfl, decodeFirst_of_follow (lead_four (by omega)) ?_⟩
    refine follow_cons ⟨le_tail ?_, tail_le ?_⟩ ?_
    · split
      · have hlow : (0x90 : UInt8).toNat = 0x90 := rfl
        omega
      · exact Nat.le_add_left _ _
    · split
      · have hhigh : (0x8f : UInt8).toNat = 0x8f := rfl
        omega
      · have hhigh : (0xbf : UInt8).toNat = 0xbf := rfl
        omega
    · refine follow_cons (tail_mem _) (follow_cons (tail_mem v) (follow_zero ?_))
      rw [leadBits_four, UInt8.toNat_ofNat', tail_mod, tail_mod, tail_mod, hv]
      omega

/-! ### Whole texts -/

lemma decodeFrom_cons {start : ℕ} {b : UInt8} {r t : List UInt8} {c : Char} {n : ℕ}
    (h : decodeFirst b r = .ok (c, n, t)) :
    decodeFrom start (b :: r) = (decodeFrom (start + n) t).map (c :: ·) := by
  rw [decodeFrom]
  split
  · rename_i heq
    rw [h] at heq
    cases heq
  · rename_i heq
    rw [h] at heq
    cases heq
    rfl

lemma decodeFrom_encode (cs : List Char) (start : ℕ) : decodeFrom start (encode cs) = .ok cs := by
  induction cs generalizing start with
  | nil => rw [encode, List.flatMap_nil, decodeFrom]
  | cons c cs ih =>
      obtain ⟨b, r, hbytes, hfirst⟩ := decodeFirst_encode c (encode cs)
      rw [encode, List.flatMap_cons, hbytes, List.cons_append]
      rw [encode] at hfirst
      rw [decodeFrom_cons hfirst]
      change Except.map _ (decodeFrom _ (encode cs)) = _
      rw [ih, Except.map]

/-- A text reads back from its bytes. -/
theorem decode_encode (cs : List Char) : decode (encode cs) = .ok cs := decodeFrom_encode cs 0

/-- No two texts have the same bytes. -/
lemma encode_injective : Function.Injective encode := by
  intro cs ds h
  have hread := decode_encode cs
  rw [h, decode_encode, Except.ok.injEq] at hread
  exact hread.symm

lemma toString?_encode (cs : List Char) : toString? (encode cs) = some (String.ofList cs) := by
  rw [toString?, decode_encode]

@[simp] theorem toString?_ofString (s : String) : toString? (ofString s) = some s := by
  rw [ofString, toString?_encode, String.ofList_toList]

/-! ### ASCII -/

lemma toNat_ofNat_of_lt {n : ℕ} (h : n < 0x80) : (Char.ofNat n).toNat = n := by
  have hvalid : n.isValidChar := .inl (by omega)
  rw [Char.ofNat, dif_pos hvalid]
  rfl

/-- A character below `0x80` is its own byte. -/
lemma encodeChar_of_lt {c : Char} (h : c.toNat < 0x80) :
    String.utf8EncodeChar c = [UInt8.ofNat c.toNat] := by
  rw [String.utf8EncodeChar]
  have hle : c.val.toNat ≤ 0x7f := Nat.le_of_lt_succ h
  simp only [hle, if_true]
  rfl

/-- The bytes of all other characters are not below `0x80`. -/
lemma le_of_mem_encodeChar {c : Char} (h : 0x80 ≤ c.toNat) {b : UInt8}
    (hb : b ∈ String.utf8EncodeChar c) : 0x80 ≤ b.toNat := by
  have hvalid := valid_toNat c
  have hv : c.toNat = c.val.toNat := rfl
  rw [String.utf8EncodeChar] at hb
  rw [hv] at h
  generalize c.val.toNat = v at hvalid hb h
  rw [if_neg (by omega)] at hb
  split at hb
  · simp only [List.mem_cons, List.not_mem_nil, or_false] at hb
    rcases hb with rfl | rfl <;> rw [UInt8.toNat_ofNat'] <;> omega
  split at hb
  · simp only [List.mem_cons, List.not_mem_nil, or_false] at hb
    rcases hb with rfl | rfl | rfl <;> rw [UInt8.toNat_ofNat'] <;> omega
  · simp only [List.mem_cons, List.not_mem_nil, or_false] at hb
    rcases hb with rfl | rfl | rfl | rfl <;> rw [UInt8.toNat_ofNat'] <;> omega

@[simp] lemma encode_nil : encode [] = [] := rfl

lemma encode_cons (c : Char) (cs : List Char) :
    encode (c :: cs) = String.utf8EncodeChar c ++ encode cs := List.flatMap_cons

lemma encode_append (cs ds : List Char) : encode (cs ++ ds) = encode cs ++ encode ds :=
  List.flatMap_append

/-- A text of ASCII characters has one byte for each of them. -/
lemma encode_of_ascii {cs : List Char} (h : ∀ c ∈ cs, c.toNat < 0x80) :
    encode cs = cs.map fun c => UInt8.ofNat c.toNat := by
  induction cs with
  | nil => rfl
  | cons c cs ih =>
      rw [encode_cons, encodeChar_of_lt (h c List.mem_cons_self),
        ih fun d hd => h d (List.mem_cons_of_mem c hd)]
      rfl

/-- The bytes of ASCII characters are their code points. -/
lemma map_toNat_encode {cs : List Char} (h : ∀ c ∈ cs, c.toNat < 0x80) :
    (encode cs).map UInt8.toNat = cs.map Char.toNat := by
  rw [encode_of_ascii h, List.map_map]
  refine List.map_congr_left fun c hc => ?_
  have hc := h c hc
  rw [Function.comp_apply, UInt8.toNat_ofNat']
  omega

/-- A text whose bytes are all small consists of ASCII characters. -/
lemma ascii_of_encode {cs : List Char} (h : ∀ b ∈ encode cs, b.toNat < 0x80) :
    ∀ c ∈ cs, c.toNat < 0x80 := by
  intro c hc
  by_contra hlarge
  obtain ⟨b, hb⟩ := List.exists_mem_of_ne_nil _ (String.utf8EncodeChar_ne_nil (c := c))
  have hmem : b ∈ encode cs := List.mem_flatMap.mpr ⟨c, hc, hb⟩
  exact absurd (h b hmem) (not_lt.mpr (le_of_mem_encodeChar (not_lt.mp hlarge) hb))

/-! ### Bytes of texts -/

/-- The bytes are those of some text. -/
def IsText (bs : List UInt8) : Prop := ∃ cs, bs = encode cs

lemma isText_encode (cs : List Char) : IsText (encode cs) := ⟨cs, rfl⟩

lemma isText_nil : IsText [] := ⟨[], rfl⟩

lemma IsText.append {bs ds : List UInt8} (h : IsText bs) (h' : IsText ds) : IsText (bs ++ ds) := by
  obtain ⟨cs, rfl⟩ := h
  obtain ⟨cs', rfl⟩ := h'
  exact ⟨cs ++ cs', (encode_append cs cs').symm⟩

lemma isText_of_ascii {bs : List UInt8} (h : ∀ b ∈ bs, b.toNat < 0x80) : IsText bs := by
  induction bs with
  | nil => exact isText_nil
  | cons b bs ih =>
      have hb := h b List.mem_cons_self
      have hc : (Char.ofNat b.toNat).toNat = b.toNat := toNat_ofNat_of_lt hb
      have hfirst : IsText [b] := by
        refine ⟨[Char.ofNat b.toNat], ?_⟩
        rw [encode_of_ascii (by simpa [hc] using hb), List.map_singleton, hc, UInt8.ofNat_toNat]
      exact hfirst.append (ih fun d hd => h d (.tail b hd))

/-- Bytes of a text are written back as they were read. -/
lemma IsText.ofString_toString? {bs : List UInt8} (h : IsText bs) :
    ofString ((toString? bs).getD "") = bs := by
  obtain ⟨cs, rfl⟩ := h
  rw [toString?_encode, Option.getD_some, ofString, String.toList_ofList]

/-! ### Bytes that are read -/

/-- What a first byte says of the bytes behind it. -/
lemma lead_cases {b low high : UInt8} {n : ℕ} (h : lead b = some (n, low, high)) :
    0x80 ≤ low.toNat ∧ high.toNat ≤ 0xbf ∧
      (n = 0 ∧ b.toNat < 0x80 ∨
        n = 1 ∧ 0xc2 ≤ b.toNat ∧ b.toNat < 0xe0 ∨
        n = 2 ∧ 0xe0 ≤ b.toNat ∧ b.toNat < 0xf0 ∧ (b.toNat = 0xe0 → 0xa0 ≤ low.toNat) ∧
          (b.toNat = 0xed → high.toNat ≤ 0x9f) ∨
        n = 3 ∧ 0xf0 ≤ b.toNat ∧ b.toNat ≤ 0xf4 ∧ (b.toNat = 0xf0 → 0x90 ≤ low.toNat) ∧
          (b.toNat = 0xf4 → high.toNat ≤ 0x8f)) := by
  simp only [lead, UInt8.lt_iff_toNat_lt, ← UInt8.toNat_inj, UInt8.toNat_ofNat] at h
  have hb := b.toNat_lt
  split_ifs at h <;> cases h <;> simp <;> omega

/-- A byte that follows is in its range and is read onto the code point. -/
lemma exists_of_follow_succ {n acc : ℕ} {low high : UInt8} {s : List UInt8} {x : ℕ × List UInt8}
    (h : follow (n + 1) low high acc s = .ok x) :
    ∃ b r, s = b :: r ∧ low.toNat ≤ b.toNat ∧ b.toNat ≤ high.toNat ∧
      follow n 0x80 0xbf (acc * 0x40 + b.toNat % 0x40) r = .ok x := by
  cases s with
  | nil => cases h
  | cons b r =>
      rw [follow] at h
      split at h
      · rename_i hb
        refine ⟨b, r, rfl, UInt8.le_iff_toNat_le.mp hb.1, UInt8.le_iff_toNat_le.mp hb.2, ?_⟩
        split at h
        · rename_i heq
          rw [heq, h]
        · cases h
      · cases h

lemma val_ofNat {v : ℕ} (h : v.isValidChar) : (Char.ofNat v).val.toNat = v := by
  rw [Char.ofNat, dif_pos h]
  rfl

lemma ofNat_eq {b : UInt8} {n : ℕ} (h : n = b.toNat) : UInt8.ofNat n = b := by
  rw [h, UInt8.ofNat_toNat]

/-- What is read as a character was written for it. -/
lemma eq_encodeChar_of_decodeFirst {b : UInt8} {r t : List UInt8} {c : Char} {n : ℕ}
    (h : decodeFirst b r = .ok (c, n, t)) : b :: r = String.utf8EncodeChar c ++ t := by
  have hb := b.toNat_lt
  have htail : (0x80 : UInt8).toNat = 0x80 ∧ (0xbf : UInt8).toNat = 0xbf := ⟨rfl, rfl⟩
  rw [decodeFirst] at h
  split at h
  · cases h
  rename_i k low high hlead
  obtain ⟨hlow, hhigh, hcases⟩ := lead_cases hlead
  split at h
  · rename_i p t' hfollow
    cases h
    rcases hcases with ⟨rfl, hb⟩ | ⟨rfl, hb, hb'⟩ | ⟨rfl, hb, hb', he0, hed⟩ | ⟨rfl, hb, hb', hf0, hf4⟩
    · -- one byte
      rw [follow, leadBits] at hfollow
      cases hfollow
      rw [String.utf8EncodeChar, val_ofNat (.inl (by omega)), if_pos (by omega), UInt8.ofNat_toNat]
      rfl
    · -- two bytes
      obtain ⟨x, r, rfl, hx, hx', hfollow⟩ := exists_of_follow_succ hfollow
      rw [follow, leadBits] at hfollow
      cases hfollow
      rw [String.utf8EncodeChar, val_ofNat (.inl (by omega)), if_neg (by omega), if_pos (by omega),
        ofNat_eq (b := b) (by omega), ofNat_eq (b := x) (by omega)]
      rfl
    · -- three bytes
      obtain ⟨x, r, rfl, hx, hx', hfollow⟩ := exists_of_follow_succ hfollow
      obtain ⟨y, r, rfl, hy, hy', hfollow⟩ := exists_of_follow_succ hfollow
      rw [follow, leadBits] at hfollow
      cases hfollow
      rw [String.utf8EncodeChar, val_ofNat (by rw [Nat.isValidChar]; omega), if_neg (by omega),
        if_neg (by omega), if_pos (by omega), ofNat_eq (b := b) (by omega),
        ofNat_eq (b := x) (by omega), ofNat_eq (b := y) (by omega)]
      rfl
    · -- four bytes
      obtain ⟨x, r, rfl, hx, hx', hfollow⟩ := exists_of_follow_succ hfollow
      obtain ⟨y, r, rfl, hy, hy', hfollow⟩ := exists_of_follow_succ hfollow
      obtain ⟨z, r, rfl, hz, hz', hfollow⟩ := exists_of_follow_succ hfollow
      have hbits : leadBits 3 b = b.toNat % 0x08 := rfl
      rw [follow, hbits] at hfollow
      cases hfollow
      rw [String.utf8EncodeChar, val_ofNat (by rw [Nat.isValidChar]; omega), if_neg (by omega),
        if_neg (by omega), if_neg (by omega), ofNat_eq (b := b) (by omega),
        ofNat_eq (b := x) (by omega), ofNat_eq (b := y) (by omega), ofNat_eq (b := z) (by omega)]
      rfl
  · cases h
  · cases h

/-- Bytes are written back as they were read. -/
theorem eq_encode_of_decode {s : List UInt8} {cs : List Char} (h : decode s = .ok cs) : s = encode cs := by
  rw [decode] at h
  generalize 0 = start at h
  induction hlength : s.length using Nat.strong_induction_on generalizing s cs start with
  | _ k ih =>
      cases s with
      | nil =>
          rw [decodeFrom] at h
          cases h
          rfl
      | cons b r =>
          rw [decodeFrom] at h
          split at h
          · cases h
          · rename_i c n t hfirst
            obtain ⟨ds, hds, rfl⟩ := map_eq_ok_iff.mp h
            have hshort := decodeFirst_length hfirst
            rw [eq_encodeChar_of_decodeFirst hfirst, encode_cons, ih t.length (by omega) _ hds rfl]

end Utf8

end ChainElection
