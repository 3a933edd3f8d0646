import ChainElection.Bytes.Basic
import ChainElection.Text.Utf8

/-!
Binary codecs.

The contract stores its values field by field: numbers as little-endian words,
a list or a text as its length in four bytes and its entries, an option or an
alternative as one byte that says which it is. A `Codec` writes a value and
takes it off the front of bytes again; codecs of larger types are put together
from those of their parts.

* `Codec.Fits` holds of the values that can be written: those whose lists and
  texts have lengths of 32 bits.
* `Codec.IsExact`: what is written is read back, and what is read was written
  so. It holds of every codec here, and `Codec.decodeAll_eq_ok_iff` draws the
  conclusion for whole messages.
-/

namespace ChainElection.Binary

/-- Why bytes are not the form of a value. -/
inductive Fault where
  | tooShort
  | tooLong
  | badBool (b : UInt8)
  | badOption (b : UInt8)
  | badVariant (b : UInt8)
  | badText (f : Utf8.Fault)
  deriving DecidableEq, Repr

/-- What is said of the fault. -/
def Fault.message : Fault → String
  | .tooShort => "Unexpected length of input"
  | .tooLong => "Not all bytes read"
  | .badBool b => s!"Invalid bool representation: {b.toNat}"
  | .badOption b =>
    s!"Invalid Option representation: {b.toNat}. The first byte must be 0 or 1"
  | .badVariant b => s!"Unexpected variant tag: {b.toNat}"
  | .badText f => f.message

/-- A way to write values of a type and to take them off the front of bytes. -/
structure Codec (α : Type) where
  Fits : α → Prop
  encode : α → List UInt8
  decode : List UInt8 → Except Fault (α × List UInt8)

namespace Codec

variable {α β : Type}

/-- What is written is read back, and what is read was written so. -/
structure IsExact (c : Codec α) : Prop where
  decode_encode : ∀ v, c.Fits v → ∀ r, c.decode (c.encode v ++ r) = .ok (v, r)
  eq_encode : ∀ s v r, c.decode s = .ok (v, r) → c.Fits v ∧ s = c.encode v ++ r

/-- Reads a message, of which nothing may be left. -/
def decodeAll (c : Codec α) (s : List UInt8) : Except Fault α :=
  match c.decode s with
  | .error e => .error e
  | .ok (v, []) => .ok v
  | .ok (_, _ :: _) => .error .tooLong

/-- A message is read as the one value that is written so. -/
theorem decodeAll_eq_ok_iff {c : Codec α} (hc : c.IsExact) {s : List UInt8} {v : α} :
    c.decodeAll s = .ok v ↔ c.Fits v ∧ s = c.encode v := by
  constructor
  · intro h
    unfold decodeAll at h
    split at h
    · exact nomatch h
    · rename_i heq
      cases h
      have := hc.eq_encode _ _ _ heq
      simpa using this
    · exact nomatch h
  · rintro ⟨hv, rfl⟩
    have := hc.decode_encode v hv []
    simp only [List.append_nil] at this
    simp [decodeAll, this]

/-! ### Putting codecs together -/

/-- The codec of pairs: one value behind the other. -/
def pair (a : Codec α) (b : Codec β) : Codec (α × β) where
  Fits v := a.Fits v.1 ∧ b.Fits v.2
  encode v := a.encode v.1 ++ b.encode v.2
  decode s :=
    match a.decode s with
    | .error e => .error e
    | .ok (x, s) =>
      match b.decode s with
      | .error e => .error e
      | .ok (y, s) => .ok ((x, y), s)

theorem IsExact.pair {a : Codec α} {b : Codec β} (ha : a.IsExact) (hb : b.IsExact) :
    (pair a b).IsExact where
  decode_encode v hv r := by
    simp only [Codec.pair, List.append_assoc, ha.decode_encode _ hv.1, hb.decode_encode _ hv.2]
  eq_encode s v r h := by
    simp only [Codec.pair] at h
    split at h
    · exact nomatch h
    · rename_i heq
      split at h
      · exact nomatch h
      · rename_i heq'
        cases h
        obtain ⟨hx, rfl⟩ := ha.eq_encode _ _ _ heq
        obtain ⟨hy, rfl⟩ := hb.eq_encode _ _ _ heq'
        exact ⟨⟨hx, hy⟩, by simp [Codec.pair]⟩

/-- The codec of a type whose values are those of another under other names. -/
def rename (c : Codec α) (f : α → β) (g : β → α) : Codec β where
  Fits v := c.Fits (g v)
  encode v := c.encode (g v)
  decode s := (c.decode s).map fun p => (f p.1, p.2)

theorem IsExact.rename {c : Codec α} (hc : c.IsExact) {f : α → β} {g : β → α}
    (hfg : ∀ v, f (g v) = v) (hgf : ∀ v, g (f v) = v) : (rename c f g).IsExact where
  decode_encode v hv r := by
    simp only [Codec.rename, hc.decode_encode _ hv, Except.map, hfg]
  eq_encode s v r h := by
    simp only [Codec.rename] at h
    cases hd : c.decode s with
    | error e => simp [hd, Except.map] at h
    | ok p =>
      simp only [hd, Except.map, Except.ok.injEq, Prod.mk.injEq] at h
      obtain ⟨rfl, rfl⟩ := h
      obtain ⟨hx, hs⟩ := hc.eq_encode _ _ _ hd
      exact ⟨by simpa [Codec.rename, hgf] using hx, by simpa [Codec.rename, hgf] using hs⟩

/-! ### Bytes and words -/

/-- Takes a number of bytes off the front. -/
def takeBytes (n : Nat) (s : List UInt8) : Except Fault (List UInt8 × List UInt8) :=
  if n ≤ s.length then .ok (s.take n, s.drop n) else .error .tooShort

theorem takeBytes_append {b : List UInt8} {n : Nat} (h : b.length = n) (r : List UInt8) :
    takeBytes n (b ++ r) = .ok (b, r) := by
  subst h
  simp [takeBytes]

theorem takeBytes_eq_ok {n : Nat} {s b r : List UInt8} (h : takeBytes n s = .ok (b, r)) :
    b.length = n ∧ s = b ++ r := by
  unfold takeBytes at h
  split at h
  · rename_i hn
    cases h
    exact ⟨by simp [hn], by simp⟩
  · exact nomatch h

/-- The codec of blocks of 32 bytes. -/
def block : Codec Bytes32 where
  Fits _ := True
  encode v := v.bytes
  decode s :=
    match takeBytes 32 s with
    | .error e => .error e
    | .ok (b, s) =>
      match Bytes32.ofList? b with
      | some v => .ok (v, s)
      | none => .error .tooShort

theorem isExact_block : block.IsExact where
  decode_encode v _ r := by
    simp [block, takeBytes_append v.length_eq]
  eq_encode s v r h := by
    simp only [block] at h
    split at h
    · exact nomatch h
    · rename_i heq
      split at h
      · rename_i hv
        cases h
        exact ⟨trivial, by rw [(takeBytes_eq_ok heq).2, ← Bytes32.ofList?_eq_some hv]; rfl⟩
      · exact nomatch h

/-- The bytes of a number, the least significant first. -/
def littleEndian : Nat → Nat → List UInt8
  | 0, _ => []
  | width + 1, n => UInt8.ofNat (n % 256) :: littleEndian width (n / 256)

/-- The number of bytes, the least significant first. -/
def ofLittleEndian : List UInt8 → Nat
  | [] => 0
  | b :: r => b.toNat + 256 * ofLittleEndian r

theorem length_littleEndian (width n : Nat) : (littleEndian width n).length = width := by
  induction width generalizing n with
  | zero => rfl
  | succ w ih => simp [littleEndian, ih]

/-- How many numbers some bytes can tell apart. -/
def capacity : Nat → Nat
  | 0 => 1
  | width + 1 => 256 * capacity width

theorem ofLittleEndian_littleEndian {width n : Nat} (h : n < capacity width) :
    ofLittleEndian (littleEndian width n) = n := by
  induction width generalizing n with
  | zero => simp [capacity] at h; simp [littleEndian, ofLittleEndian, h]
  | succ w ih =>
    have h' : n / 256 < capacity w := Nat.div_lt_of_lt_mul h
    simp only [littleEndian, ofLittleEndian, ih h', UInt8.toNat_ofNat']
    omega

theorem ofLittleEndian_lt (bs : List UInt8) : ofLittleEndian bs < capacity bs.length := by
  induction bs with
  | nil => simp [ofLittleEndian, capacity]
  | cons b r ih =>
    have := b.toNat_lt
    simp only [ofLittleEndian, List.length_cons, capacity]
    omega

theorem littleEndian_ofLittleEndian (bs : List UInt8) :
    littleEndian bs.length (ofLittleEndian bs) = bs := by
  induction bs with
  | nil => rfl
  | cons b r ih =>
    have hb := b.toNat_lt
    have h1 : (b.toNat + 256 * ofLittleEndian r) % 256 = b.toNat := by omega
    have h2 : (b.toNat + 256 * ofLittleEndian r) / 256 = ofLittleEndian r := by omega
    simp only [List.length_cons, ofLittleEndian, littleEndian, h1, h2, ih]
    simp

/-- The codec of numbers in a fixed number of bytes. -/
def number (width : Nat) : Codec Nat where
  Fits n := n < capacity width
  encode n := littleEndian width n
  decode s := (takeBytes width s).map fun p => (ofLittleEndian p.1, p.2)

theorem isExact_number (width : Nat) : (number width).IsExact where
  decode_encode n hn r := by
    simp only [number, takeBytes_append (length_littleEndian width n), Except.map,
      ofLittleEndian_littleEndian hn]
  eq_encode s v r h := by
    simp only [number] at h
    cases hd : takeBytes width s with
    | error e => simp [hd, Except.map] at h
    | ok p =>
      simp only [hd, Except.map, Except.ok.injEq, Prod.mk.injEq] at h
      obtain ⟨rfl, rfl⟩ := h
      obtain ⟨hl, hs⟩ := takeBytes_eq_ok hd
      subst hl
      exact ⟨ofLittleEndian_lt _, by simpa [number, littleEndian_ofLittleEndian] using hs⟩

/-- The codec of words of 64 bits. -/
def word64 : Codec UInt64 where
  Fits _ := True
  encode v := (number 8).encode v.toNat
  decode s := ((number 8).decode s).map fun p => (UInt64.ofNat p.1, p.2)

/-- The codec of words of 32 bits. -/
def word32 : Codec UInt32 where
  Fits _ := True
  encode v := (number 4).encode v.toNat
  decode s := ((number 4).decode s).map fun p => (UInt32.ofNat p.1, p.2)

theorem isExact_word64 : word64.IsExact where
  decode_encode v _ r := by
    have := (isExact_number 8).decode_encode v.toNat v.toNat_lt r
    simp [word64, this, Except.map]
  eq_encode s v r h := by
    simp only [word64] at h
    cases hd : (number 8).decode s with
    | error e => simp [hd, Except.map] at h
    | ok p =>
      simp only [hd, Except.map, Except.ok.injEq, Prod.mk.injEq] at h
      obtain ⟨rfl, rfl⟩ := h
      obtain ⟨hx, hs⟩ := (isExact_number 8).eq_encode _ _ _ hd
      have hx' : p.1 < 2 ^ 64 := hx
      have hp : (UInt64.ofNat p.1).toNat = p.1 := UInt64.toNat_ofNat_of_lt' hx'
      refine ⟨trivial, ?_⟩
      change s = (number 8).encode (UInt64.ofNat p.1).toNat ++ p.2
      rw [hp]
      exact hs

theorem isExact_word32 : word32.IsExact where
  decode_encode v _ r := by
    have := (isExact_number 4).decode_encode v.toNat v.toNat_lt r
    simp [word32, this, Except.map]
  eq_encode s v r h := by
    simp only [word32] at h
    cases hd : (number 4).decode s with
    | error e => simp [hd, Except.map] at h
    | ok p =>
      simp only [hd, Except.map, Except.ok.injEq, Prod.mk.injEq] at h
      obtain ⟨rfl, rfl⟩ := h
      obtain ⟨hx, hs⟩ := (isExact_number 4).eq_encode _ _ _ hd
      have hx' : p.1 < 2 ^ 32 := hx
      have hp : (UInt32.ofNat p.1).toNat = p.1 := UInt32.toNat_ofNat_of_lt' hx'
      refine ⟨trivial, ?_⟩
      change s = (number 4).encode (UInt32.ofNat p.1).toNat ++ p.2
      rw [hp]
      exact hs

/-- The codec of truth values. -/
def bool : Codec Bool where
  Fits _ := True
  encode v := [if v then 1 else 0]
  decode
    | [] => .error .tooShort
    | b :: r =>
      if b = 0 then .ok (false, r) else if b = 1 then .ok (true, r) else .error (.badBool b)

/-! ### Lists, texts and options -/

/-- Takes a number of values off the front. -/
def decodeMany (c : Codec α) : Nat → List UInt8 → Except Fault (List α × List UInt8)
  | 0, s => .ok ([], s)
  | n + 1, s =>
    match c.decode s with
    | .error e => .error e
    | .ok (x, s) =>
      match decodeMany c n s with
      | .error e => .error e
      | .ok (xs, s) => .ok (x :: xs, s)

/-- The codec of lists. -/
def list (c : Codec α) : Codec (List α) where
  Fits v := v.length < UInt32.size ∧ ∀ x ∈ v, c.Fits x
  encode v := (number 4).encode v.length ++ v.flatMap c.encode
  decode s :=
    match (number 4).decode s with
    | .error e => .error e
    | .ok (n, s) => decodeMany c n s

/-- The codec of bytes. -/
def bytes : Codec (List UInt8) where
  Fits v := v.length < UInt32.size
  encode v := (number 4).encode v.length ++ v
  decode s :=
    match (number 4).decode s with
    | .error e => .error e
    | .ok (n, s) => takeBytes n s

/-- The codec of texts. -/
def text : Codec String where
  Fits v := (Utf8.ofString v).length < UInt32.size
  encode v := bytes.encode (Utf8.ofString v)
  decode s :=
    match bytes.decode s with
    | .error e => .error e
    | .ok (b, s) =>
      match Utf8.decode b with
      | .error f => .error (.badText f)
      | .ok cs => .ok (String.ofList cs, s)

/-- The codec of values that may be absent. -/
def option (c : Codec α) : Codec (Option α) where
  Fits v := ∀ x ∈ v, c.Fits x
  encode
    | none => [0]
    | some x => 1 :: c.encode x
  decode
    | [] => .error .tooShort
    | b :: r =>
      if b = 0 then .ok (none, r)
      else if b = 1 then (c.decode r).map fun p => (some p.1, p.2)
      else .error (.badOption b)

end Codec

end ChainElection.Binary
