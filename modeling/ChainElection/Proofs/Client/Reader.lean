import Mathlib.Tactic
import ChainElection.Client.Reader
import ChainElection.Proofs.Election.Messages

/-!
What the answer to a view's call shows.

* `View.codec` is the binary form of what a view shows. Every view is decoded with
  its own, and what is decoded is always of the view's own type.
* `View.IsReading` are the rules by which a view is read, `View.isReading_shown`
  says that every view is read by them.
-/

namespace ChainElection

/-! ### Faults of decoding -/

lemma head?_append (s t : String) {c : Char} (h : s.toList.head? = some c) :
    (s ++ t).toList.head? = some c := by
  rw [String.toList_append, List.head?_append, h, Option.some_or]

/-- No fault is spoken of like a value that was not asked for. -/
lemma Binary.Fault.head?_message (f : Binary.Fault) :
    ∃ c, c ≠ 'd' ∧ f.message.toList.head? = some c := by
  cases f with
  | tooShort => exact ⟨'U', by decide, rfl⟩
  | tooLong => exact ⟨'N', by decide, rfl⟩
  | badBool b => exact ⟨'I', by decide, head?_append "Invalid bool representation: " _ rfl⟩
  | badOption b =>
      exact ⟨'I', by decide, head?_append _ _ (head?_append "Invalid Option representation: " _ rfl)⟩
  | badVariant b => exact ⟨'U', by decide, head?_append "Unexpected variant tag: " _ rfl⟩
  | badText f =>
      obtain ⟨start, length⟩ := f
      cases length with
      | none =>
          exact ⟨'i', by decide, head?_append "incomplete utf-8 byte sequence from index " _ rfl⟩
      | some n =>
          exact ⟨'i', by decide,
            head?_append _ _ (head?_append _ _ (head?_append "invalid utf-8 sequence of " _ rfl))⟩

namespace View

variable {v : View}

/-- What is decoded in place of a value that was not asked for is not said of a fault. -/
lemma unexpected_ne (x : Viewed) (f : Binary.Fault) :
    v.unexpected x ≠ .malformedReturnValue v.entrypoint f.message := by
  intro h
  rw [unexpected, ClientError.malformedReturnValue.injEq] at h
  obtain ⟨c, hc, hmessage⟩ := f.head?_message
  have hproduced := head?_append "decoder produced " (toString x.outline.line) rfl
  rw [← h.2] at hmessage
  exact hc (Option.some.inj (hmessage.symm.trans hproduced))

/-! ### Views by their types -/

/-- The binary form of what a view shows. -/
def codec : (v : View) → Binary.Codec v.Shown
  | .config => ElectionConfig.codec
  | .guardians => Guardians.codec
  | .tally => EncryptedTally.codec
  | .result => ElectionResult.codec

/-- A value of a view's own type, as what it shows. -/
def viewed : (v : View) → v.Shown → Viewed
  | .config => .config
  | .guardians => .guardians
  | .tally => .tally
  | .result => .result

lemma isStrict_codec (v : View) : v.codec.IsStrict := by
  cases v with
  | config => exact ElectionConfig.isStrict_codec
  | guardians => exact Guardians.isStrict_codec
  | tally => exact EncryptedTally.isStrict_codec
  | result => exact ElectionResult.isStrict_codec

lemma decode_eq (v : View) (bs : List UInt8) : v.decode bs = (v.codec.decodeAll bs).map v.viewed := by
  cases v <;> rfl

lemma pick?_viewed (v : View) (x : v.Shown) : v.pick? (v.viewed x) = some x := by
  cases v <;> rfl

/-! ### What is shown -/

/-- What the bytes of a value show is what they are decoded to. -/
lemma shown_value (v : View) (energy : Energy) (bs : List UInt8) :
    v.shown (.ok (.success energy (some bs))) =
      match v.codec.decodeAll bs with
      | .ok x => .ok (some x)
      | .error f => .error (.malformedReturnValue v.entrypoint f.message) := by
  change v.narrow ((v.decoded (v.decode bs)).map some) = _
  rw [decode_eq]
  cases v.codec.decodeAll bs with
  | error f => rfl
  | ok x => simp only [Except.map, decoded, narrow, pick?_viewed]

lemma shown_eq_some_iff {energy : Energy} {bs : List UInt8} {x : v.Shown} :
    v.shown (.ok (.success energy (some bs))) = .ok (some x) ↔ v.codec.Fits x ∧ bs = v.codec.encode x := by
  rw [← Binary.Codec.decodeAll_eq_ok_iff v.isStrict_codec.toIsExact, shown_value]
  cases v.codec.decodeAll bs <;> simp

/-- Bytes that nothing is written as are not what the view should return. -/
lemma shown_of_forall_ne {energy : Energy} {bs : List UInt8}
    (h : ∀ x, v.codec.Fits x → bs ≠ v.codec.encode x) :
    ∃ f : Binary.Fault, v.shown (.ok (.success energy (some bs))) =
      .error (.malformedReturnValue v.entrypoint f.message) := by
  rw [shown_value]
  cases hdecode : v.codec.decodeAll bs with
  | error f => exact ⟨f, rfl⟩
  | ok x =>
      obtain ⟨hfits, hbs⟩ := (Binary.Codec.decodeAll_eq_ok_iff v.isStrict_codec.toIsExact).mp hdecode
      exact absurd hbs (h x hfits)

/-- The rules by which a view is read from the answer to its call: an error is passed on; a view whose
call fails is not available; a success has to come with a value; and a value is what it is written as, or
the contract has returned something else than it should. -/
structure IsReading (v : View)
    (read : Except ClientError InvokeResult → Except ClientError (Option v.Shown)) : Prop where
  error : ∀ e, read (.error e) = .error e
  failure : ∀ energy reason, read (.ok (.failure energy reason)) = .ok none
  missing : ∀ energy, read (.ok (.success energy none)) =
    .error (.malformedReturnValue v.entrypoint "missing return value")
  value : ∀ energy bs x, read (.ok (.success energy (some bs))) = .ok (some x) ↔
    v.codec.Fits x ∧ bs = v.codec.encode x
  malformed : ∀ energy bs, (∀ x, v.codec.Fits x → bs ≠ v.codec.encode x) →
    ∃ f : Binary.Fault, read (.ok (.success energy (some bs))) =
      .error (.malformedReturnValue v.entrypoint f.message)
  available : ∀ energy bs, read (.ok (.success energy (some bs))) ≠ .ok none
  expected : ∀ energy bs x, read (.ok (.success energy (some bs))) ≠ .error (v.unexpected x)

/-- Every view is read by the rules. -/
theorem isReading_shown (v : View) : v.IsReading v.shown where
  error _ := rfl
  failure _ _ := rfl
  missing _ := rfl
  value _ _ _ := shown_eq_some_iff
  malformed _ _ := shown_of_forall_ne
  available energy bs := by
    rw [shown_value]
    cases v.codec.decodeAll bs <;> simp
  expected energy bs x := by
    rw [shown_value]
    cases v.codec.decodeAll bs with
    | error f => exact fun h => unexpected_ne x f (Except.error.inj h).symm
    | ok y => simp

end View

end ChainElection
