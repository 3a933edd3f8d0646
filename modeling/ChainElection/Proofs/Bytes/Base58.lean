import Mathlib.Data.List.TakeWhile
import Mathlib.Tactic
import ChainElection.Chain.Account
import ChainElection.Proofs.Text.Utf8

/-!
Base58, to and fro.

* `Positional.digits_ofDigits`: digits are found again, up to zeros in front.
* `Base58.read_text`: bytes read back from their digits, zeros in front
  included. `Base58.read_eq_ok_iff`: and from nothing else.
* `Account.read_text`: so does an account; `Account.text_injective` follows.
-/

namespace ChainElection

/-! ### Positional notation -/

namespace Positional

variable {b : ℕ}

lemma digits_zero : digits b 0 = [] := by
  rw [digits, digitsReversed, dif_pos rfl, List.reverse_nil]

lemma digits_append {n d : ℕ} (hd : d < b + 2) (h : n * (b + 2) + d ≠ 0) :
    digits b (n * (b + 2) + d) = digits b n ++ [d] := by
  have hmod : (n * (b + 2) + d) % (b + 2) = d := by
    rw [Nat.mul_comm, Nat.mul_add_mod, Nat.mod_eq_of_lt hd]
  have hdiv : (n * (b + 2) + d) / (b + 2) = n := by
    rw [Nat.mul_comm, Nat.mul_add_div (by omega), Nat.div_eq_of_lt hd, Nat.add_zero]
  rw [digits, digitsReversed, dif_neg h, hmod, hdiv, List.reverse_cons, digits]

lemma ofDigits_append (ds : List ℕ) (d : ℕ) :
    ofDigits b (ds ++ [d]) = ofDigits b ds * (b + 2) + d := by
  rw [ofDigits, List.foldl_append, ofDigits, List.foldl_cons, List.foldl_nil]

/-- Digits that denote zero are zeros. -/
lemma ofDigits_eq_zero {ds : List ℕ} (h : ofDigits b ds = 0) : ∀ d ∈ ds, d = 0 := by
  induction ds using List.reverseRecOn with
  | nil => exact fun d hd => by cases hd
  | append_singleton ds d ih =>
      rw [ofDigits_append, Nat.add_eq_zero_iff, Nat.mul_eq_zero] at h
      intro x hx
      rcases List.mem_append.mp hx with hx | hx
      · exact ih (h.1.resolve_right (by omega)) x hx
      · rw [List.mem_singleton.mp hx, h.2]

/-- Digits are found again, up to zeros in front. -/
theorem digits_ofDigits {ds : List ℕ} (hds : ∀ d ∈ ds, d < b + 2) :
    digits b (ofDigits b ds) = ds.dropWhile (· == 0) := by
  induction ds using List.reverseRecOn with
  | nil => exact digits_zero
  | append_singleton ds d ih =>
      have hd : d < b + 2 := hds d (by simp)
      have hrest := ih fun x hx => hds x (List.mem_append_left _ hx)
      by_cases h : ofDigits b (ds ++ [d]) = 0
      · have hzero : (ds ++ [d]).dropWhile (· == 0) = [] := by
          rw [List.dropWhile_eq_nil_iff]
          exact fun x hx => by simp [ofDigits_eq_zero h x hx]
        rw [h, hzero, digits_zero]
      · rw [ofDigits_append] at h ⊢
        rw [digits_append hd h, hrest, List.dropWhile_append]
        split
        · rename_i hempty
          -- all digits before the last are zeros, so the last is none
          have hnil := List.isEmpty_iff.mp hempty
          rw [← hrest] at hnil
          have hn : ofDigits b ds = 0 := by
            rw [← ofDigits_digits b (ofDigits b ds), hnil]
            rfl
          rw [hn, Nat.zero_mul, Nat.zero_add] at h
          rw [List.isEmpty_iff.mp hempty]
          simp [h]
        · rfl

/-- The first digit of a number is no zero. -/
lemma digits_dropWhile (n : ℕ) : (digits b n).dropWhile (· == 0) = digits b n := by
  rw [← digits_ofDigits fun d hd => digit_lt hd, ofDigits_digits]

lemma ofDigits_zeros (k : ℕ) (ds : List ℕ) :
    ofDigits b (List.replicate k 0 ++ ds) = ofDigits b ds := by
  induction k with
  | zero => rfl
  | succ k ih =>
      rw [List.replicate_succ, List.cons_append, ← ih, ofDigits, ofDigits, List.foldl_cons,
        Nat.zero_mul, Nat.zero_add]

end Positional

/-! ### Zeros in front -/

section Front

variable {α : Type}

lemma takeWhile_of_dropWhile {p : α → Bool} {l : List α} (h : l.dropWhile p = l) :
    l.takeWhile p = [] := by
  have hsplit := List.takeWhile_append_dropWhile (p := p) (l := l)
  rw [h] at hsplit
  simpa using hsplit

lemma takeWhile_eq_replicate [BEq α] [LawfulBEq α] (a : α) (l : List α) :
    l.takeWhile (· == a) = List.replicate (l.takeWhile (· == a)).length a := by
  refine List.eq_replicate_of_mem fun x hx => ?_
  have h := List.mem_takeWhile_imp hx
  simpa using h

end Front

/-! ### Base58 -/

namespace Base58

open Positional

lemma digitChar_lt {n : ℕ} (h : n < 58) : (digitChar n).toNat < 0x80 := by
  interval_cases n <;> decide

lemma digit?_digitChar {n : ℕ} (h : n < 58) : digit? (digitChar n) = some n := by
  interval_cases n <;> decide

/-- The values of the digits that bytes are written by. -/
def valuesOf (bs : List UInt8) : List ℕ :=
  List.replicate (bs.takeWhile (· == 0)).length 0 ++ digits 56 (number bs)

lemma encode_eq (bs : List UInt8) : encode bs = (valuesOf bs).map digitChar := by
  have hone : digitChar 0 = '1' := rfl
  rw [encode, valuesOf, List.map_append, List.map_replicate, hone]

lemma valuesOf_lt {bs : List UInt8} {d : ℕ} (h : d ∈ valuesOf bs) : d < 58 := by
  rcases List.mem_append.mp h with h | h
  · rw [List.eq_of_mem_replicate h]
    decide
  · exact digit_lt h

lemma values_map {ds : List ℕ} (hds : ∀ d ∈ ds, d < 58) (place : ℕ) :
    values place (ds.map fun d => UInt8.ofNat (digitChar d).toNat) = .ok ds := by
  induction ds generalizing place with
  | nil => rfl
  | cons d ds ih =>
      have hd := hds d List.mem_cons_self
      have hlt := digitChar_lt hd
      have hbyte : (UInt8.ofNat (digitChar d).toNat).toNat = (digitChar d).toNat := by
        rw [UInt8.toNat_ofNat']
        omega
      have hascii : UInt8.ofNat (digitChar d).toNat < 0x80 := by
        rwa [UInt8.lt_iff_toNat_lt, hbyte]
      rw [List.map_cons, values, if_pos hascii, hbyte, Char.ofNat_toNat, digit?_digitChar hd,
        ih fun x hx => hds x (List.mem_cons_of_mem d hx)]
      rfl

/-- Bytes are zeros in front and the bytes of their number. -/
lemma bytes_number (bs : List UInt8) : bytes (number bs) = bs.dropWhile (· == 0) := by
  have hlt : ∀ d ∈ bs.map UInt8.toNat, d < 254 + 2 := by
    intro d hd
    obtain ⟨x, -, rfl⟩ := List.mem_map.mp hd
    exact x.toNat_lt
  rw [bytes, number, digits_ofDigits hlt, List.dropWhile_map, List.map_map]
  have hzero : ((· == 0) ∘ UInt8.toNat) = fun x : UInt8 => x == 0 := by
    funext x
    rw [Function.comp_apply, Bool.eq_iff_iff, beq_iff_eq, beq_iff_eq, ← UInt8.toNat_inj]
    rfl
  have hid : UInt8.ofNat ∘ UInt8.toNat = id := by
    funext x
    exact UInt8.ofNat_toNat
  rw [hzero, hid, List.map_id]

/-- There are as many zeros in front of the digits as in front of the bytes. -/
lemma length_takeWhile_valuesOf (bs : List UInt8) :
    ((valuesOf bs).takeWhile (· == 0)).length = (bs.takeWhile (· == 0)).length := by
  have hnone := takeWhile_of_dropWhile (digits_dropWhile (b := 56) (number bs))
  rw [valuesOf, List.takeWhile_append, List.takeWhile_replicate]
  simp [hnone]

lemma ofValues_valuesOf (bs : List UInt8) : ofValues (valuesOf bs) = bs := by
  rw [ofValues, length_takeWhile_valuesOf, valuesOf, ofDigits_zeros, ofDigits_digits, bytes_number,
    ← takeWhile_eq_replicate, List.takeWhile_append_dropWhile]

lemma ofString_text (bs : List UInt8) :
    Utf8.ofString (text bs) = (valuesOf bs).map fun d => UInt8.ofNat (digitChar d).toNat := by
  have hascii : ∀ c ∈ (valuesOf bs).map digitChar, c.toNat < 0x80 := by
    intro c hc
    obtain ⟨d, hd, rfl⟩ := List.mem_map.mp hc
    exact digitChar_lt (valuesOf_lt hd)
  rw [Utf8.ofString, text, String.toList_ofList, encode_eq, Utf8.encode_of_ascii hascii, List.map_map]
  rfl

/-- Bytes read back from their digits. -/
@[simp] theorem read_text (bs : List UInt8) : read (text bs) = .ok bs := by
  rw [read, ofString_text, values_map fun d hd => valuesOf_lt hd]
  exact congrArg Except.ok (ofValues_valuesOf bs)

/-! ### One spelling only -/

/-- The value of a digit is its place in the alphabet. -/
lemma digitChar_of_digit? {c : Char} {d : ℕ} (h : digit? c = some d) : d < 58 ∧ digitChar d = c := by
  obtain ⟨hlt, hc, -⟩ := List.findIdx?_eq_some_iff_getElem.mp h
  have hlength : alphabet.length = 58 := by decide
  refine ⟨hlength ▸ hlt, ?_⟩
  rw [digitChar, List.getD_eq_getElem?_getD, List.getElem?_eq_getElem hlt, Option.getD_some]
  exact eq_of_beq hc

lemma number_bytes (n : ℕ) : number (bytes n) = n := by
  have hbytes : (bytes n).map UInt8.toNat = digits 254 n := by
    rw [bytes, List.map_map]
    refine (List.map_congr_left fun d hd => ?_).trans (List.map_id _)
    have hlt := digit_lt hd
    rw [Function.comp_apply, UInt8.toNat_ofNat', Nat.mod_eq_of_lt hlt]
    rfl
  rw [number, hbytes, ofDigits_digits]

/-- Digits are the ones that the bytes are written by that they denote. -/
lemma valuesOf_ofValues {ds : List ℕ} (hds : ∀ d ∈ ds, d < 58) : valuesOf (ofValues ds) = ds := by
  have hnone : (bytes (ofDigits 56 ds)).takeWhile (· == 0) = [] := by
    refine takeWhile_of_dropWhile ?_
    rw [← bytes_number, number_bytes]
  have hzeros : (ofValues ds).takeWhile (· == 0) =
      List.replicate (ds.takeWhile (· == 0)).length 0 := by
    rw [ofValues, List.takeWhile_append, List.takeWhile_replicate]
    simp [hnone]
  have hnumber : number (ofValues ds) = ofDigits 56 ds := by
    have hmap (k : ℕ) : (List.replicate k (0 : UInt8)).map UInt8.toNat = List.replicate k 0 :=
      List.map_replicate
    rw [number, ofValues, List.map_append, hmap, ofDigits_zeros]
    exact number_bytes _
  rw [valuesOf, hzeros, List.length_replicate, hnumber, digits_ofDigits hds,
    ← takeWhile_eq_replicate, List.takeWhile_append_dropWhile]

/-- Bytes that have values are the digits of these values. -/
lemma eq_map_of_values {bs : List UInt8} {place : ℕ} {ds : List ℕ} (h : values place bs = .ok ds) :
    (∀ d ∈ ds, d < 58) ∧ bs = ds.map fun d => UInt8.ofNat (digitChar d).toNat := by
  induction bs generalizing place ds with
  | nil =>
      cases h
      simp
  | cons b bs ih =>
      rw [values] at h
      split at h
      · rename_i hb
        cases hdigit : digit? (Char.ofNat b.toNat) with
        | none =>
            rw [hdigit] at h
            cases h
        | some d =>
            rw [hdigit] at h
            obtain ⟨ds', hrest, rfl⟩ := map_eq_ok_iff.mp h
            obtain ⟨hlt, hchar⟩ := digitChar_of_digit? hdigit
            obtain ⟨hall, rfl⟩ := ih hrest
            have hbyte : UInt8.ofNat (digitChar d).toNat = b := by
              rw [hchar, Utf8.toNat_ofNat_of_lt (UInt8.lt_iff_toNat_lt.mp hb), UInt8.ofNat_toNat]
            refine ⟨List.forall_mem_cons.mpr ⟨hlt, hall⟩, ?_⟩
            rw [List.map_cons, hbyte]
      · cases h

/-- A text is read as the bytes that it is the text of, and as no others. -/
theorem read_eq_ok_iff {s : String} {bs : List UInt8} : read s = .ok bs ↔ s = text bs := by
  constructor
  · intro h
    obtain ⟨ds, hvalues, rfl⟩ := map_eq_ok_iff.mp h
    obtain ⟨hds, hbytes⟩ := eq_map_of_values hvalues
    have htext : Utf8.ofString s = Utf8.ofString (text (ofValues ds)) := by
      rw [ofString_text, valuesOf_ofValues hds, hbytes]
    exact String.toList_injective (Utf8.encode_injective htext)
  · rintro rfl
    exact read_text bs

end Base58

/-! ### Accounts -/

/-- An account reads back from its text. -/
@[simp] theorem Account.read_text (a : Account) : read a.text = .ok a := by
  rw [read, text, Bytes32.ofBase58, Base58.read_text]
  simp only [Bytes32.ofList?_bytes]
  rfl

lemma Account.text_injective : Function.Injective Account.text := by
  intro a b h
  have hread := read_text a
  rw [h, read_text, Except.ok.injEq] at hread
  exact hread.symm

end ChainElection
