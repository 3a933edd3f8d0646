import Mathlib.Tactic
import ChainElection.Chain.Transaction
import ChainElection.Proofs.Text.Utf8

/-!
Hexadecimal text, to and fro.

* `Hex.read_text`: bytes read back from their digits. `Hex.read_eq_ok_iff`: and
  from these in either case, but from nothing else.
* `TransactionHash.read_text`: so does the hash of a transaction; its digits
  are never taken for the mark in front of them.
-/

namespace ChainElection

namespace Hex

/-! ### Single digits -/

lemma digitChar_lt {n : ℕ} (h : n < 16) : (digitChar n).toNat < 0x80 := by
  interval_cases n <;> decide

lemma digitChar_ne_x {n : ℕ} (h : n < 16) : digitChar n ≠ 'x' := by
  interval_cases n <;> decide

lemma digit?_digitChar {n : ℕ} (h : n < 16) :
    digit? (UInt8.ofNat (digitChar n).toNat) = some (UInt8.ofNat n) := by
  interval_cases n <;> decide

lemma div_lt (b : UInt8) : b.toNat / 16 < 16 := by
  have hb := b.toNat_lt
  omega

lemma mod_lt (b : UInt8) : b.toNat % 16 < 16 := Nat.mod_lt _ (by decide)

/-- A byte is made of its two digits. -/
lemma digits_toByte (b : UInt8) :
    UInt8.ofNat (b.toNat / 16) * 16 + UInt8.ofNat (b.toNat % 16) = b := by
  have hb := b.toNat_lt
  have hbase : (16 : UInt8).toNat = 16 := rfl
  rw [← UInt8.toNat_inj, UInt8.toNat_add, UInt8.toNat_mul, UInt8.toNat_ofNat', UInt8.toNat_ofNat',
    hbase]
  omega

/-! ### Texts -/

lemma encode_cons (b : UInt8) (bs : List UInt8) :
    encode (b :: bs) = digitChar (b.toNat / 16) :: digitChar (b.toNat % 16) :: encode bs := rfl

lemma ascii_encode (bs : List UInt8) : ∀ c ∈ encode bs, c.toNat < 0x80 := by
  induction bs with
  | nil => exact fun c hc => by cases hc
  | cons b bs ih =>
      intro c hc
      rw [encode_cons, List.mem_cons, List.mem_cons] at hc
      rcases hc with rfl | rfl | hc
      · exact digitChar_lt (div_lt b)
      · exact digitChar_lt (mod_lt b)
      · exact ih c hc

/-- The characters of a text of digits. -/
lemma isDigit_of_mem_encode {bs : List UInt8} {c : Char} (hc : c ∈ encode bs) :
    c ∈ "0123456789abcdef".toList := by
  have hdigit : ∀ {n}, n < 16 → digitChar n ∈ "0123456789abcdef".toList := by
    intro n hn
    interval_cases n <;> decide
  induction bs with
  | nil => cases hc
  | cons b bs ih =>
      rw [encode_cons, List.mem_cons, List.mem_cons] at hc
      rcases hc with rfl | rfl | hc
      · exact hdigit (div_lt b)
      · exact hdigit (mod_lt b)
      · exact ih hc

/-- A character that is no digit does not stand in a text of digits. -/
lemma notMem_encode {c : Char} (hc : c ∉ "0123456789abcdef".toList) (bs : List UInt8) :
    c ∉ encode bs := fun h => hc (isDigit_of_mem_encode h)

lemma ofString_text (bs : List UInt8) :
    Utf8.ofString (text bs) = (encode bs).map fun c => UInt8.ofNat c.toNat := by
  rw [Utf8.ofString, text, String.toList_ofList, Utf8.encode_of_ascii (ascii_encode bs)]

lemma decodeFrom_encode (bs : List UInt8) (place : ℕ) :
    decodeFrom place ((encode bs).map fun c => UInt8.ofNat c.toNat) = .ok bs := by
  induction bs generalizing place with
  | nil => rfl
  | cons b bs ih =>
      rw [encode_cons, List.map_cons, List.map_cons, decodeFrom, digit?_digitChar (div_lt b),
        digit?_digitChar (mod_lt b)]
      simp only [ih, digits_toByte]
      rfl

/-- Bytes read back from their digits. -/
@[simp] theorem read_text (bs : List UInt8) : read (text bs) = .ok bs := by
  rw [read, decode, ofString_text, if_pos, decodeFrom_encode]
  rw [List.length_map, length_encode]
  omega

/-! ### Either case -/

/-- The value of a digit, and its form in lower case. -/
lemma lower_of_digit? :
    ∀ n < 0x80, ∀ x ∈ digit? (UInt8.ofNat n),
      x.toNat < 16 ∧ (Char.ofNat n).toLower = digitChar x.toNat := by decide +kernel

/-- The case of a digit makes no difference. -/
lemma digit?_lower :
    ∀ n < 0x80, digit? (UInt8.ofNat (Char.ofNat n).toLower.toNat) = digit? (UInt8.ofNat n) := by
  decide +kernel

lemma digit?_eq_some_iff {c : Char} (hc : c.toNat < 0x80) {x : UInt8} :
    digit? (UInt8.ofNat c.toNat) = some x ↔ x.toNat < 16 ∧ c.toLower = digitChar x.toNat := by
  constructor
  · intro h
    have hlower := lower_of_digit? _ hc x h
    rwa [Char.ofNat_toNat] at hlower
  · rintro ⟨hx, hlower⟩
    have hdigit := digit?_lower _ hc
    rw [Char.ofNat_toNat, hlower, digit?_digitChar hx, UInt8.ofNat_toNat] at hdigit
    exact hdigit.symm

/-- Only the bytes of digits are read. -/
lemma lt_of_digit? {b x : UInt8} (h : digit? b = some x) : b.toNat < 0x80 := by
  rw [digit?] at h
  split_ifs at h with hnumber hlower hupper
  · exact lt_of_le_of_lt (UInt8.le_iff_toNat_le.mp hnumber.2) (by decide)
  · exact lt_of_le_of_lt (UInt8.le_iff_toNat_le.mp hlower.2) (by decide)
  · exact lt_of_le_of_lt (UInt8.le_iff_toNat_le.mp hupper.2) (by decide)

/-- A pair of digits comes first, and the rest is read as well. -/
lemma decodeFrom_cons_eq_ok_iff {a b : UInt8} {s bs : List UInt8} {place : ℕ} :
    decodeFrom place (a :: b :: s) = .ok bs ↔
      ∃ x y r, digit? a = some x ∧ digit? b = some y ∧ decodeFrom (place + 2) s = .ok r ∧
        bs = (x * 16 + y) :: r := by
  rw [decodeFrom]
  cases digit? a with
  | none => simp
  | some x =>
      cases digit? b with
      | none => simp
      | some y => cases decodeFrom (place + 2) s <;> simp [Except.map, eq_comm]

lemma lt_of_decodeFrom {s bs : List UInt8} {place : ℕ} (h : decodeFrom place s = .ok bs) :
    ∀ b ∈ s, b.toNat < 0x80 := by
  match s with
  | [] => exact fun b hb => absurd hb List.not_mem_nil
  | [a] => cases h
  | a :: b :: s =>
      obtain ⟨x, y, r, ha, hb, hr, -⟩ := decodeFrom_cons_eq_ok_iff.mp h
      have hs := lt_of_decodeFrom hr
      intro d hd
      rcases List.mem_cons.mp hd with rfl | hd
      · exact lt_of_digit? ha
      rcases List.mem_cons.mp hd with rfl | hd
      · exact lt_of_digit? hb
      · exact hs d hd

/-- A byte is written with the digits that it is read from. -/
lemma digits_of_byte {x y b : UInt8} (hx : x.toNat < 16) (hy : y.toNat < 16) :
    b = x * 16 + y ↔ x.toNat = b.toNat / 16 ∧ y.toNat = b.toNat % 16 := by
  have hb := b.toNat_lt
  have hbase : (16 : UInt8).toNat = 16 := rfl
  rw [← UInt8.toNat_inj, UInt8.toNat_add, UInt8.toNat_mul, hbase]
  omega

/-- Characters are read as the bytes whose digits they are, in either case. -/
lemma decodeFrom_eq_ok_iff {cs : List Char} (hcs : ∀ c ∈ cs, c.toNat < 0x80) {bs : List UInt8}
    {place : ℕ} :
    decodeFrom place (cs.map fun c => UInt8.ofNat c.toNat) = .ok bs ↔
      cs.map Char.toLower = encode bs := by
  match cs with
  | [] => cases bs <;> simp [decodeFrom, encode, encodeByte]
  | [c] => cases bs <;> simp [decodeFrom, encode, encodeByte]
  | c :: d :: cs =>
      have hc := hcs c List.mem_cons_self
      have hd := hcs d (List.mem_cons_of_mem _ List.mem_cons_self)
      have hrest : ∀ e ∈ cs, e.toNat < 0x80 := fun e he => hcs e (by simp [he])
      simp only [List.map_cons, decodeFrom_cons_eq_ok_iff, digit?_eq_some_iff hc,
        digit?_eq_some_iff hd, decodeFrom_eq_ok_iff hrest]
      constructor
      · rintro ⟨x, y, r, ⟨hx, hcx⟩, ⟨hy, hdy⟩, hr, rfl⟩
        obtain ⟨hhigh, hlow⟩ := (digits_of_byte hx hy).mp rfl
        rw [hcx, hdy, hr, encode_cons, ← hhigh, ← hlow]
      · intro h
        cases bs with
        | nil => cases h
        | cons b r =>
            rw [encode_cons, List.cons.injEq, List.cons.injEq] at h
            have hhigh : (UInt8.ofNat (b.toNat / 16)).toNat = b.toNat / 16 := by
              rw [UInt8.toNat_ofNat', Nat.mod_eq_of_lt (lt_trans (div_lt b) (by decide))]
            have hlow : (UInt8.ofNat (b.toNat % 16)).toNat = b.toNat % 16 := by
              rw [UInt8.toNat_ofNat', Nat.mod_eq_of_lt (lt_trans (mod_lt b) (by decide))]
            refine ⟨UInt8.ofNat (b.toNat / 16), UInt8.ofNat (b.toNat % 16), r, ⟨?_, ?_⟩, ⟨?_, ?_⟩,
              h.2.2, by rw [digits_toByte]⟩
            · rw [hhigh]
              exact div_lt b
            · rw [hhigh, h.1]
            · rw [hlow]
              exact mod_lt b
            · rw [hlow, h.2.1]

lemma lt_of_toLower {c : Char} (h : c.toLower.toNat < 0x80) : c.toNat < 0x80 := by
  delta Char.toLower at h
  split at h
  · rename_i hupper
    exact lt_of_le_of_lt (UInt32.le_iff_toNat_le.mp hupper.2) (by decide)
  · exact h

/-- A text is read as the bytes whose digits it has, in either case. -/
theorem read_eq_ok_iff {s : String} {bs : List UInt8} :
    read s = .ok bs ↔ s.toList.map Char.toLower = (text bs).toList := by
  rw [text, String.toList_ofList, read, decode]
  constructor
  · intro h
    split at h
    · have hcs := Utf8.ascii_of_encode (lt_of_decodeFrom h)
      rwa [Utf8.ofString, Utf8.encode_of_ascii hcs, decodeFrom_eq_ok_iff hcs] at h
    · cases h
  · intro h
    have hcs : ∀ c ∈ s.toList, c.toNat < 0x80 := fun c hc =>
      lt_of_toLower (ascii_encode bs _ (h ▸ List.mem_map_of_mem hc))
    have hlength : s.toList.length = 2 * bs.length := by
      rw [← length_encode, ← h, List.length_map]
    rw [Utf8.ofString, Utf8.encode_of_ascii hcs, if_pos, decodeFrom_eq_ok_iff hcs]
    · exact h
    · rw [List.length_map, hlength]
      omega

end Hex

/-! ### Hashes -/

/-- Digits are not taken for the mark in front of them. -/
lemma withoutHexMark_text (bs : List UInt8) : withoutHexMark (Hex.text bs) = Hex.text bs := by
  rw [withoutHexMark, Hex.text, String.toList_ofList]
  split
  · rename_i r heq
    cases bs with
    | nil => cases heq
    | cons b bs =>
        rw [Hex.encode_cons, List.cons.injEq, List.cons.injEq] at heq
        exact absurd heq.2.1 (Hex.digitChar_ne_x (Hex.mod_lt b))
  · rfl

/-- A hash reads back from its text. -/
@[simp] theorem TransactionHash.read_text (h : TransactionHash) : read h.text = .ok h := by
  rw [read, text, Bytes32.ofHex, withoutHexMark_text, Hex.read_text]
  simp only [Bytes32.ofList?_bytes]
  rfl

/-- No two hashes have the same text. -/
lemma TransactionHash.text_injective : Function.Injective TransactionHash.text := by
  intro h h' heq
  have hread := read_text h
  rw [heq, read_text] at hread
  exact (Except.ok.inj hread).symm

end ChainElection
