import Mathlib.Tactic
import ChainElection.Election.Ballot
import ChainElection.Election.Tally
import ChainElection.Proofs.Binary.Codec

/-!
The messages that a client and the contract of an election exchange.

* `Message.Reads` says where in a message which part is read.
  `Reads.decode_error`: what is wrong with a part is wrong with the message.
* `Message.IsCanonical`: every value has one written form, which is read back,
  and nothing else is read; in particular nothing that is shorter or longer, and
  nothing with a part that makes no sense in its place.
* `messages_are_canonical` says it of configurations, guardians, tallies,
  results and ballots, and what makes no sense where.
-/

namespace ChainElection

open Binary Binary.Codec

/-! ### The parts of an election -/

lemma Account.isStrict_codec : Account.codec.IsStrict :=
  isStrict_block.rename (fun _ => rfl) fun _ => rfl

lemma Moment.isStrict_codec : Moment.codec.IsStrict :=
  isStrict_word64.rename (fun _ => rfl) fun _ => rfl

lemma Resource.isStrict_codec : Resource.codec.IsStrict :=
  (isStrict_text.pair isStrict_block).rename (fun _ => rfl) fun _ => rfl

lemma EligibleVoters.isStrict_codec : EligibleVoters.codec.IsStrict :=
  (Moment.isStrict_codec.pair (Moment.isStrict_codec.pair Resource.isStrict_codec)).rename
    (fun _ => rfl) fun _ => rfl

lemma ElectionConfig.isStrict_codec : ElectionConfig.codec.IsStrict :=
  (Account.isStrict_codec.pair <| Resource.isStrict_codec.pair <| Resource.isStrict_codec.pair <|
    Account.isStrict_codec.list.pair <| EligibleVoters.isStrict_codec.pair <| isStrict_text.pair <|
    Resource.isStrict_codec.list.pair <| Moment.isStrict_codec.pair <| Moment.isStrict_codec.pair <|
    Moment.isStrict_codec.pair isStrict_text).rename (fun _ => rfl) fun _ => rfl

/-- The byte in front says which alternative a status is. -/
lemma GuardianStatus.isStrict_codec : GuardianStatus.codec.IsStrict := by
  have hnames : (list Account.codec).IsStrict := Account.isStrict_codec.list
  constructor
  · constructor
    · intro v hv r
      cases v with
      | keyVerificationFailed gs =>
          have h := hnames.decode_encode gs hv r
          simp [codec, h, Except.map]
      | sharesVerificationFailed gs =>
          have h := hnames.decode_encode gs hv r
          simp [codec, h, Except.map]
      | verificationSuccessful => rfl
    · intro s v r h
      cases s with
      | nil => cases h
      | cons x s =>
          simp only [codec] at h
          split_ifs at h with hkey hshares hdone
          · obtain ⟨⟨gs, t⟩, hgs, heq⟩ := map_eq_ok_iff.mp h
            cases heq
            obtain ⟨hfits, rfl⟩ := hnames.eq_encode _ _ _ hgs
            exact ⟨hfits, by rw [hkey]; rfl⟩
          · obtain ⟨⟨gs, t⟩, hgs, heq⟩ := map_eq_ok_iff.mp h
            cases heq
            obtain ⟨hfits, rfl⟩ := hnames.eq_encode _ _ _ hgs
            exact ⟨hfits, by rw [hshares]; rfl⟩
          · cases h
            exact ⟨trivial, by rw [hdone]; rfl⟩
  · intro v p q hv h hq
    cases p with
    | nil => rfl
    | cons x p =>
        cases v with
        | keyVerificationFailed gs =>
            obtain ⟨rfl, hrest⟩ := List.cons.inj h
            have hpart := hnames.decode_part gs p q hv hrest hq
            simp [codec, hpart, Except.map]
        | sharesVerificationFailed gs =>
            obtain ⟨rfl, hrest⟩ := List.cons.inj h
            have hpart := hnames.decode_part gs p q hv hrest hq
            simp [codec, hpart, Except.map]
        | verificationSuccessful => cases part_of_singleton h hq

lemma GuardianState.isStrict_codec : GuardianState.codec.IsStrict :=
  (isStrict_word32.pair <| isStrict_bytes.option.pair <| isStrict_bytes.option.pair <|
    isStrict_bytes.option.pair <| isStrict_bytes.option.pair <|
    GuardianStatus.isStrict_codec.option).rename (fun _ => rfl) fun _ => rfl

lemma Guardians.isStrict_codec : Guardians.codec.IsStrict :=
  (Account.isStrict_codec.pair GuardianState.isStrict_codec).list

lemma EncryptedTally.isStrict_codec : EncryptedTally.codec.IsStrict := isStrict_bytes.option

lemma CandidateResult.isStrict_codec : CandidateResult.codec.IsStrict :=
  (Resource.isStrict_codec.pair isStrict_word64).rename (fun _ => rfl) fun _ => rfl

lemma ElectionResult.isStrict_codec : ElectionResult.codec.IsStrict :=
  CandidateResult.isStrict_codec.list.option

lemma Ballot.isStrict_codec : Ballot.codec.IsStrict :=
  isStrict_bool.list.rename (fun _ => rfl) fun _ => rfl

namespace Message

variable {α β : Type} {c : Codec α} {d : Codec β} {s u w : List UInt8}

/-! ### Places in a message -/

/-- The bytes are read as the value, whatever stands behind them. -/
def Takes (c : Codec α) (u : List UInt8) (v : α) : Prop := ∀ r, c.decode (u ++ r) = .ok (v, r)

/-- The bytes are read as the first of a number of values, whatever stands behind them. -/
def TakesMany (c : Codec α) (u : List UInt8) (k : ℕ) : Prop :=
  ∃ xs, ∀ r, decodeMany c k (u ++ r) = .ok (xs, r)

/-- Behind these bytes of a message that one codec reads, another one reads a part of it. -/
inductive Reads : {α β : Type} → Codec α → List UInt8 → Codec β → Prop where
  | self {α : Type} (c : Codec α) : Reads c [] c
  | first {α β γ : Type} {a : Codec α} {b : Codec β} {d : Codec γ} {w : List UInt8}
      (h : Reads a w d) : Reads (a.pair b) w d
  | second {α β γ : Type} {a : Codec α} {b : Codec β} {d : Codec γ} {u w : List UInt8} {x : α}
      (hx : Takes a u x) (h : Reads b w d) : Reads (a.pair b) (u ++ w) d
  | renamed {α β γ : Type} {a : Codec α} {d : Codec γ} {f : α → β} {g : β → α} {w : List UInt8}
      (h : Reads a w d) : Reads (a.rename f g) w d
  | size : Reads bytes [] (number 4)
  | letters {γ : Type} {d : Codec γ} {w : List UInt8} (h : Reads bytes w d) : Reads text w d
  | count {α : Type} {a : Codec α} : Reads (list a) [] (number 4)
  | item {α γ : Type} {a : Codec α} {d : Codec γ} {u w : List UInt8} {n k : ℕ}
      (hn : n < UInt32.size) (hk : k < n) (hu : TakesMany a u k) (h : Reads a w d) :
      Reads (list a) ((number 4).encode n ++ (u ++ w)) d
  | presence {α γ : Type} {a : Codec α} {d : Codec γ} {w : List UInt8} (h : Reads a w d) :
      Reads (option a) (1 :: w) d
  | keyVerifiers {γ : Type} {d : Codec γ} {w : List UInt8} (h : Reads (list Account.codec) w d) :
      Reads GuardianStatus.codec (0 :: w) d
  | sharesVerifiers {γ : Type} {d : Codec γ} {w : List UInt8} (h : Reads (list Account.codec) w d) :
      Reads GuardianStatus.codec (1 :: w) d

lemma decodeMany_of_error {k m : ℕ} {xs : List α} {e : Fault}
    (hu : decodeMany c k (u ++ s) = .ok (xs, s)) (hs : c.decode s = .error e) :
    decodeMany c (k + (m + 1)) (u ++ s) = .error e := by
  generalize u ++ s = t at hu
  induction k generalizing t xs with
  | zero =>
      cases hu
      rw [Nat.zero_add, decodeMany, hs]
  | succ k ih =>
      rw [decodeMany] at hu
      split at hu
      · cases hu
      · rename_i x t' hx
        split at hu
        · cases hu
        · rename_i ys t'' hys
          cases hu
          rw [Nat.succ_add, decodeMany, hx]
          simp only [ih t' hys]

/-- What is wrong with a part is wrong with the message. -/
theorem Reads.decode_error {e : Fault} (h : Reads c w d) (hs : d.decode s = .error e) :
    c.decode (w ++ s) = .error e := by
  induction h with
  | self => exact hs
  | first _ ih => simp only [Codec.pair, ih hs]
  | second hx _ ih => simp only [Codec.pair, List.append_assoc, hx _, ih hs]
  | renamed _ ih => simp only [Codec.rename, ih hs, Except.map]
  | size => simp only [bytes, List.nil_append, hs]
  | letters _ ih => simp only [text, ih hs]
  | count => simp only [Codec.list, List.nil_append, hs]
  | item hn hk hu _ ih =>
      obtain ⟨xs, hxs⟩ := hu
      obtain ⟨m, rfl⟩ := Nat.exists_eq_add_of_lt hk
      simp only [Codec.list, List.append_assoc, decode_length hn]
      exact decodeMany_of_error (m := m) (hxs _) (ih hs)
  | presence _ ih => simp [Codec.option, ih hs, Except.map]
  | keyVerifiers _ ih => simp [GuardianStatus.codec, ih hs, Except.map]
  | sharesVerifiers _ ih => simp [GuardianStatus.codec, ih hs, Except.map]

/-! ### Whole messages -/

/-- Every value has one written form, which is read back; nothing else is read. A part of a message is too
short, more than a message is too long, and a message with a part that makes no sense is as wrong as this
part. The values are those that can be written: those whose lists and texts have lengths of 32 bits. -/
structure IsCanonical (c : Codec α) : Prop where
  decodeAll_encode : ∀ v, c.Fits v → c.decodeAll (c.encode v) = .ok v
  eq_encode : ∀ s v, c.decodeAll s = .ok v → c.Fits v ∧ s = c.encode v
  encode_injective : ∀ v w, c.Fits v → c.Fits w → c.encode v = c.encode w → v = w
  decodeAll_part : ∀ v p q, c.Fits v → c.encode v = p ++ q → q ≠ [] →
    c.decodeAll p = .error .tooShort
  decodeAll_append : ∀ v r, c.Fits v → r ≠ [] → c.decodeAll (c.encode v ++ r) = .error .tooLong
  decodeAll_of_reads : ∀ {β : Type} (d : Codec β) w s e, Reads c w d → d.decode s = .error e →
    c.decodeAll (w ++ s) = .error e

lemma decodeAll_of_error {e : Fault} (h : c.decode s = .error e) : c.decodeAll s = .error e := by
  rw [decodeAll, h]

theorem isCanonical_of_isStrict (hc : c.IsStrict) : IsCanonical c where
  decodeAll_encode v hv := (decodeAll_eq_ok_iff hc.toIsExact).mpr ⟨hv, rfl⟩
  eq_encode s v h := (decodeAll_eq_ok_iff hc.toIsExact).mp h
  encode_injective v w hv hw h := by
    have hread : c.decodeAll (c.encode w) = .ok v := (decodeAll_eq_ok_iff hc.toIsExact).mpr ⟨hv, h.symm⟩
    rw [(decodeAll_eq_ok_iff hc.toIsExact).mpr ⟨hw, rfl⟩] at hread
    exact (Except.ok.inj hread).symm
  decodeAll_part v p q hv h hq := decodeAll_of_error (hc.decode_part v p q hv h hq)
  decodeAll_append v r hv hr := by
    obtain ⟨x, r, rfl⟩ := List.exists_cons_of_ne_nil hr
    rw [decodeAll, hc.decode_encode v hv]
  decodeAll_of_reads d w s e h hs := decodeAll_of_error (h.decode_error hs)

/-! ### Parts that make no sense -/

lemma bool_decode_error {x : UInt8} (h : x ≠ 0) (h' : x ≠ 1) (r : List UInt8) :
    Codec.bool.decode (x :: r) = .error (.badBool x) := by
  simp only [Codec.bool, if_neg h, if_neg h']

lemma option_decode_error (c : Codec α) {x : UInt8} (h : x ≠ 0) (h' : x ≠ 1) (r : List UInt8) :
    (option c).decode (x :: r) = .error (.badOption x) := by
  simp only [option, if_neg h, if_neg h']

lemma status_decode_error {x : UInt8} (h : x ≠ 0) (h' : x ≠ 1) (h'' : x ≠ 2) (r : List UInt8) :
    GuardianStatus.codec.decode (x :: r) = .error (.badVariant x) := by
  simp only [GuardianStatus.codec, if_neg h, if_neg h', if_neg h'']

/-- Bytes that are told to be a text have to be one. -/
lemma text_decode_error {x : List UInt8} {f : Utf8.Fault} (hx : x.length < UInt32.size)
    (h : Utf8.decode x = .error f) (r : List UInt8) :
    text.decode (bytes.encode x ++ r) = .error (.badText f) := by
  simp only [text, isStrict_bytes.decode_encode x hx, h]

/-- There have to be as many bytes as are told. -/
lemma bytes_decode_error {n : ℕ} (hn : n < UInt32.size) (h : s.length < n) :
    bytes.decode ((number 4).encode n ++ s) = .error .tooShort := by
  simp only [bytes, decode_length hn, takeBytes_of_lt h]

/-- There have to be as many items as are told. -/
lemma list_decode_error {n : ℕ} {xs : List α} (hc : c.IsExact) (hempty : c.decode [] = .error .tooShort)
    (hxs : ∀ x ∈ xs, c.Fits x) (hn : n < UInt32.size) (h : xs.length < n) :
    (list c).decode ((number 4).encode n ++ xs.flatMap c.encode) = .error .tooShort := by
  have hitem : Reads (list c) ((number 4).encode n ++ (xs.flatMap c.encode ++ [])) c :=
    .item hn h ⟨xs, decodeMany_append hc hxs⟩ (.self c)
  have herror := hitem.decode_error hempty
  rwa [List.append_nil, List.append_nil] at herror

end Message

/-! ### Views -/

namespace Viewed

/-- The view that shows it. -/
def view : Viewed → View
  | .config _ => .config
  | .guardians _ => .guardians
  | .tally _ => .tally
  | .result _ => .result

/-- It can be written. -/
def Fits : Viewed → Prop
  | .config c => ElectionConfig.codec.Fits c
  | .guardians gs => Guardians.codec.Fits gs
  | .tally t => EncryptedTally.codec.Fits t
  | .result r => ElectionResult.codec.Fits r

/-- The return value of its view. -/
def encode : Viewed → List UInt8
  | .config c => ElectionConfig.codec.encode c
  | .guardians gs => Guardians.codec.encode gs
  | .tally t => EncryptedTally.codec.encode t
  | .result r => ElectionResult.codec.encode r

end Viewed

/-- A return value is decoded to what it was written for. -/
theorem View.decode_eq_ok_iff {v : View} {s : List UInt8} {x : Viewed} :
    v.decode s = .ok x ↔ x.view = v ∧ x.Fits ∧ s = x.encode := by
  have hdecode : ∀ {α : Type} {c : Codec α} (f : α → Viewed), c.IsExact →
      ((c.decodeAll s).map f = .ok x ↔ ∃ y, (c.Fits y ∧ s = c.encode y) ∧ f y = x) := by
    intro α c f hc
    rw [map_eq_ok_iff]
    exact exists_congr fun y => and_congr_left' (decodeAll_eq_ok_iff hc)
  cases v with
  | config =>
      rw [decode, hdecode Viewed.config ElectionConfig.isStrict_codec.toIsExact]
      cases x <;> simp [Viewed.view, Viewed.Fits, Viewed.encode]
  | guardians =>
      rw [decode, hdecode Viewed.guardians Guardians.isStrict_codec.toIsExact]
      cases x <;> simp [Viewed.view, Viewed.Fits, Viewed.encode]
  | tally =>
      rw [decode, hdecode Viewed.tally EncryptedTally.isStrict_codec.toIsExact]
      cases x <;> simp [Viewed.view, Viewed.Fits, Viewed.encode]
  | result =>
      rw [decode, hdecode Viewed.result ElectionResult.isStrict_codec.toIsExact]
      cases x <;> simp [Viewed.view, Viewed.Fits, Viewed.encode]

namespace Message

/-! ### The main result -/

/-- The written forms of configurations, guardians, tallies, results and ballots are canonical. A view's
return value is decoded exactly to what it was written for. And wherever a message has, in the place of a
truth value, of a mark or of a length, of a text or of a number of items, what cannot stand there, this is
what the message is refused for. -/
theorem messages_are_canonical :
    IsCanonical ElectionConfig.codec ∧ IsCanonical Guardians.codec ∧ IsCanonical EncryptedTally.codec ∧
      IsCanonical ElectionResult.codec ∧ IsCanonical Ballot.codec ∧
    (∀ (v : View) s x, v.decode s = .ok x ↔ x.view = v ∧ x.Fits ∧ s = x.encode) ∧
    (∀ x r, x ≠ 0 → x ≠ 1 → Codec.bool.decode (x :: r) = .error (.badBool x)) ∧
    (∀ (α : Type) (c : Codec α) x r, x ≠ 0 → x ≠ 1 →
      (option c).decode (x :: r) = .error (.badOption x)) ∧
    (∀ x r, x ≠ 0 → x ≠ 1 → x ≠ 2 → GuardianStatus.codec.decode (x :: r) = .error (.badVariant x)) ∧
    (∀ x f r, x.length < UInt32.size → Utf8.decode x = .error f →
      text.decode (bytes.encode x ++ r) = .error (.badText f)) ∧
    (∀ n s, n < UInt32.size → s.length < n →
      bytes.decode ((number 4).encode n ++ s) = .error .tooShort) ∧
    ∀ (α : Type) (c : Codec α) n (xs : List α), c.IsExact → c.decode [] = .error .tooShort →
      (∀ x ∈ xs, c.Fits x) → n < UInt32.size → xs.length < n →
      (list c).decode ((number 4).encode n ++ xs.flatMap c.encode) = .error .tooShort := by
  refine ⟨isCanonical_of_isStrict ElectionConfig.isStrict_codec,
    isCanonical_of_isStrict Guardians.isStrict_codec,
    isCanonical_of_isStrict EncryptedTally.isStrict_codec,
    isCanonical_of_isStrict ElectionResult.isStrict_codec,
    isCanonical_of_isStrict Ballot.isStrict_codec, fun _ _ _ => View.decode_eq_ok_iff, ?_, ?_, ?_, ?_,
    ?_, ?_⟩
  · exact fun x r h h' => bool_decode_error h h' r
  · exact fun α c x r h h' => option_decode_error c h h' r
  · exact fun x r h h' h'' => status_decode_error h h' h'' r
  · exact fun x f r hx h => text_decode_error hx h r
  · exact fun n s hn h => bytes_decode_error hn h
  · exact fun α c n xs hc hempty hxs hn h => list_decode_error hc hempty hxs hn h

/-- A ballot for the first of two candidates, what is left of it without its last byte, what comes of it
with one byte more, and what it is refused for when its last byte is no truth value. -/
theorem messages_are_canonical_of_two_candidates :
    Ballot.codec.Fits ⟨[true, false]⟩ ∧ Ballot.codec.encode ⟨[true, false]⟩ = [2, 0, 0, 0, 1, 0] ∧
      Ballot.codec.decodeAll [2, 0, 0, 0, 1, 0] = .ok ⟨[true, false]⟩ ∧
      Ballot.codec.decodeAll [2, 0, 0, 0, 1] = .error .tooShort ∧
      Ballot.codec.decodeAll [2, 0, 0, 0, 1, 0, 7] = .error .tooLong ∧
      Ballot.codec.decodeAll [2, 0, 0, 0, 1, 7] = .error (.badBool 7) := by
  have hfits : Ballot.codec.Fits ⟨[true, false]⟩ := ⟨by decide, fun _ _ => trivial⟩
  have hitem : Reads Ballot.codec [2, 0, 0, 0, 1] Codec.bool :=
    .renamed (.item (n := 2) (k := 1) (u := [1]) (by decide) (by decide) ⟨[true], fun _ => rfl⟩ (.self _))
  obtain ⟨-, -, -, -, hballot, -, hbool, -⟩ := messages_are_canonical
  refine ⟨hfits, rfl, hballot.decodeAll_encode _ hfits, ?_, ?_, ?_⟩
  · exact hballot.decodeAll_part _ [2, 0, 0, 0, 1] [0] hfits rfl (by decide)
  · exact hballot.decodeAll_append _ [7] hfits (by decide)
  · exact hballot.decodeAll_of_reads _ _ _ _ hitem (hbool 7 [] (by decide) (by decide))

end Message

end ChainElection
