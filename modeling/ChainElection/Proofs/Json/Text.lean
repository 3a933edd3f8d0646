import Mathlib.Tactic
import ChainElection.Json.Text
import ChainElection.Proofs.Text.Utf8

/-!
The inside of a JSON string, to and fro.

* `scan_escape`: a text that was written raw is taken off the front again, up to
  the quote behind it.
* `text?_escape`: it denotes the text that was written.
* `isText_escape`: it is text itself.
-/

namespace ChainElection.Json

/-! ### Single bytes -/

/-- The digits of a control code have its value. -/
lemma hex4?_hexByte {b : UInt8} (h : b < 0x20) :
    hex4? 0x30 0x30 (hexByte (b / 16)) (hexByte (b % 16)) = some b.toNat := by
  have hlt : b.toNat < 0x20 := UInt8.lt_iff_toNat_lt.mp h
  rw [← UInt8.ofNat_toNat (x := b)]
  generalize b.toNat = n at hlt ⊢
  interval_cases n <;> decide

lemma encode_controlCode {b : UInt8} (h : b < 0x20) : Utf8.encode [Char.ofNat b.toNat] = [b] := by
  have hlt : b.toNat < 0x20 := UInt8.lt_iff_toNat_lt.mp h
  rw [← UInt8.ofNat_toNat (x := b)]
  generalize b.toNat = n at hlt ⊢
  interval_cases n <;> decide

/-- The ways to write a byte: as it is, behind a backslash, by a letter behind a backslash, or by its
number. -/
inductive Escapes (b : UInt8) : List UInt8 → Prop where
  | plain (hquote : b ≠ quote) (hbackslash : b ≠ backslash) (hcode : ¬ b < 0x20) : Escapes b [b]
  | letter {e : UInt8} (he : e ≠ 0x75) (hb : escapedByte? e = some b) : Escapes b [backslash, e]
  | code (hb : b < 0x20) :
      Escapes b [backslash, 0x75, 0x30, 0x30, hexByte (b / 16), hexByte (b % 16)]

lemma escapes_escapeByte (b : UInt8) : Escapes b (escapeByte b) := by
  rw [escapeByte]
  split
  · rename_i h
    rcases h with rfl | rfl <;> exact .letter (by decide) (by decide)
  split
  · rename_i h
    exact h ▸ .letter (by decide) (by decide)
  split
  · rename_i h
    exact h ▸ .letter (by decide) (by decide)
  split
  · rename_i h
    exact h ▸ .letter (by decide) (by decide)
  split
  · rename_i h
    exact h ▸ .letter (by decide) (by decide)
  split
  · rename_i h
    exact h ▸ .letter (by decide) (by decide)
  split
  · rename_i h
    exact .code h
  · rename_i hspecial _ _ _ _ _ hcode
    rw [not_or] at hspecial
    exact .plain hspecial.1 hspecial.2 hcode

/-! ### Taking a raw form off the front -/

lemma scan_of_escapes {b : UInt8} {raw : List UInt8} (h : Escapes b raw) (s : List UInt8) :
    scan (raw ++ s) = (scan s).map fun p => (raw ++ p.1, p.2) := by
  have hbackslash : backslash ≠ quote := by decide
  have hcode : ¬ backslash < 0x20 := by decide
  cases h with
  | plain hq hb hc =>
      rw [List.cons_append, List.nil_append, scan.eq_def]
      simp only [hq, hb, hc, if_false]
      rfl
  | letter he hb =>
      rw [List.cons_append, List.cons_append, List.nil_append, scan.eq_def]
      simp only [hbackslash, hcode, he, hb, if_false, if_true, Option.isSome_some]
      rfl
  | code hb =>
      rw [List.cons_append, scan.eq_def]
      simp only [List.cons_append, List.nil_append, hbackslash, hcode, hex4?_hexByte hb, if_false,
        if_true, Option.isSome_some]

lemma scan_flatMap (bs r : List UInt8) :
    scan (bs.flatMap escapeByte ++ quote :: r) = some (bs.flatMap escapeByte, r) := by
  induction bs with
  | nil =>
      rw [List.flatMap_nil, List.nil_append, scan.eq_def]
      exact if_pos rfl
  | cons b bs ih =>
      rw [List.flatMap_cons, List.append_assoc, scan_of_escapes (escapes_escapeByte b), ih]
      rfl

/-- A text that was written raw is taken off the front again. -/
theorem scan_escape (s : String) (r : List UInt8) :
    scan (escape s ++ quote :: r) = some (escape s, r) := scan_flatMap _ r

/-! ### What a raw form denotes -/

lemma unescape_of_escapes {b : UInt8} {raw : List UInt8} (h : Escapes b raw) (s : List UInt8) :
    unescape (raw ++ s) = (unescape s).map (b :: ·) := by
  cases h with
  | plain _ hbackslash _ =>
      rw [List.cons_append, List.nil_append, unescape.eq_def]
      simp only [hbackslash, if_false]
  | letter he hb =>
      rw [List.cons_append, List.cons_append, List.nil_append, unescape.eq_def]
      simp only [he, hb, if_false, if_true]
  | code hb =>
      have hunit : unescapeUnit b.toNat s = some ([b], s) := by
        have hlt := UInt8.lt_iff_toNat_lt.mp hb
        have hlimit : (0x20 : UInt8).toNat = 0x20 := rfl
        unfold unescapeUnit
        rw [if_pos (.inl (by omega)), encode_controlCode hb]
      rw [List.cons_append, unescape.eq_def]
      simp only [List.cons_append, List.nil_append, if_true, hex4?_hexByte hb]
      split
      · rename_i heq
        rw [hunit] at heq
        cases heq
      · rename_i heq
        rw [hunit] at heq
        cases heq
        rfl

lemma unescape_flatMap (bs : List UInt8) : unescape (bs.flatMap escapeByte) = some bs := by
  induction bs with
  | nil => rw [List.flatMap_nil, unescape]
  | cons b bs ih =>
      rw [List.flatMap_cons, unescape_of_escapes (escapes_escapeByte b), ih, Option.map_some]

/-- A text that was written raw denotes itself. -/
@[simp] theorem text?_escape (s : String) : text? (escape s) = some s := by
  rw [text?, escape, unescape_flatMap, Option.bind_some, Utf8.toString?_ofString]

/-! ### Raw forms as text -/

/-- The raw form of a byte of ASCII is ASCII. -/
lemma lt_of_mem_escapeByte {b : UInt8} (hb : b.toNat < 0x80) {x : UInt8} (hx : x ∈ escapeByte b) :
    x.toNat < 0x80 := by
  have hall : ∀ n < 0x80, (escapeByte (UInt8.ofNat n)).all (fun y => decide (y.toNat < 0x80)) := by
    decide
  have h := hall b.toNat hb
  rw [UInt8.ofNat_toNat, List.all_eq_true] at h
  exact of_decide_eq_true (h x hx)

/-- All other bytes stand for themselves. -/
lemma escapeByte_of_le {b : UInt8} (hb : 0x80 ≤ b.toNat) : escapeByte b = [b] := by
  have hne : ∀ {d : UInt8}, d.toNat < 0x80 → b ≠ d := by
    rintro d hd rfl
    omega
  have hlt : ¬ b < 0x20 := by
    rw [UInt8.lt_iff_toNat_lt]
    have hlimit : (0x20 : UInt8).toNat = 0x20 := rfl
    omega
  rw [escapeByte, if_neg (not_or.mpr ⟨hne (by decide), hne (by decide)⟩), if_neg (hne (by decide)),
    if_neg (hne (by decide)), if_neg (hne (by decide)), if_neg (hne (by decide)),
    if_neg (hne (by decide)), if_neg hlt]

/-- The raw form of a text is text itself. -/
theorem isText_escape (s : String) : Utf8.IsText (escape s) := by
  rw [escape, Utf8.ofString]
  induction s.toList with
  | nil => exact Utf8.isText_nil
  | cons c cs ih =>
      rw [Utf8.encode_cons, List.flatMap_append]
      refine Utf8.IsText.append ?_ ih
      rcases Nat.lt_or_ge c.toNat 0x80 with hc | hc
      · rw [Utf8.encodeChar_of_lt hc, List.flatMap_singleton]
        refine Utf8.isText_of_ascii fun x hx => lt_of_mem_escapeByte ?_ hx
        rw [UInt8.toNat_ofNat']
        omega
      · have hplain : (String.utf8EncodeChar c).flatMap escapeByte = Utf8.encode [c] := by
          rw [Utf8.encode_cons, Utf8.encode_nil, List.append_nil]
          have hbytes : ∀ b ∈ String.utf8EncodeChar c, escapeByte b = [b] := fun b hb =>
            escapeByte_of_le (Utf8.le_of_mem_encodeChar hc hb)
          rw [List.flatMap_congr hbytes, List.flatMap_singleton']
        rw [hplain]
        exact Utf8.isText_encode [c]

end ChainElection.Json
