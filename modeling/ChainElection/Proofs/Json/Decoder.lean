import Mathlib.Tactic
import ChainElection.Json.Decoder
import ChainElection.Proofs.Text.Utf8

/-!
What decoders find.

* `Finds` says that all that a decoder finds is of a kind. `Finds.asParsed`,
  `Finds.list`, `Finds.fill`, `Finds.next`: this is handed on from the parts to
  the whole.
* `foldMembers_induction`: so is what holds of all members met so far.
* `Finds.decode`: what is found in a text is of the kind, too.
-/

namespace ChainElection.Json

variable {α σ : Type} {d : Decoder α} {P : α → Prop}

/-- All that a decoder finds is of a kind. -/
def Finds (d : Decoder α) (P : α → Prop) : Prop := ∀ j a, d j = .ok a → P a

lemma Finds.asParsed {parse : String → Option α} (h : ∀ {s a}, parse s = some a → P a) :
    Finds (asParsed parse) P := by
  intro j a hj
  rw [Json.asParsed] at hj
  split at hj
  · cases hj
  · split at hj
    · rename_i hparse
      cases hj
      exact h hparse
    · cases hj

lemma Finds.items (h : Finds d P) {js : List Json} {as : List α} (hjs : items d js = .ok as) :
    ∀ a ∈ as, P a := by
  induction js generalizing as with
  | nil =>
      cases hjs
      exact List.forall_mem_nil _
  | cons j js ih =>
      rw [Json.items] at hjs
      split at hjs
      · cases hjs
      · rename_i a hj
        obtain ⟨rest, hrest, rfl⟩ := map_eq_ok_iff.mp hjs
        exact List.forall_mem_cons.mpr ⟨h j a hj, ih hrest⟩

lemma Finds.list (h : Finds d P) : Finds (asList d) fun as => ∀ a ∈ as, P a := by
  intro j as hj
  rw [asList.eq_def] at hj
  split at hj
  · exact h.items hj
  · cases hj

lemma Finds.next (h : Finds d P) {js rest : List Json} {a : α} (hjs : next d js = .ok (a, rest)) :
    P a := by
  cases js with
  | nil => cases hjs
  | cons j js =>
      obtain ⟨a, hj, heq⟩ := map_eq_ok_iff.mp hjs
      cases heq
      exact h j a hj

/-- A slot that is filled holds what is of the kind. -/
lemma Finds.fill (h : Finds d P) {slot slot' : Option α} {j : Json} (hfill : fill d slot j = .ok slot') :
    ∀ a ∈ slot', P a := by
  rw [Json.fill] at hfill
  split at hfill
  · cases hfill
  · obtain ⟨a, hj, rfl⟩ := map_eq_ok_iff.mp hfill
    rintro _ ⟨⟩
    exact h j a hj

/-- What holds at first and goes on to hold with every member holds of all of them. -/
lemma foldMembers_induction {step : String → Json → σ → Except Fault σ} {P : σ → Prop}
    (hstep : ∀ {key j s t}, step key j s = .ok t → P s → P t) {ms : List (List UInt8 × Json)} {s t : σ}
    (h : foldMembers step s ms = .ok t) (hs : P s) : P t := by
  induction ms generalizing s with
  | nil =>
      cases h
      exact hs
  | cons m ms ih =>
      rw [foldMembers] at h
      split at h
      · cases h
      · split at h
        · cases h
        · rename_i s' hs'
          exact ih h (hstep hs' hs)

lemma skip_eq_ok {j : Json} {s t : σ} (h : skip j s = .ok t) : s = t := by
  rw [skip] at h
  split at h
  · exact Except.ok.inj h
  · cases h

lemma present_eq_ok {slot : Option α} {a : α} (h : present slot = .ok a) : slot = some a := by
  cases slot with
  | none => cases h
  | some b => exact congrArg some (Except.ok.inj h)

/-- What is found in bytes is of the kind. -/
lemma Finds.decode (h : Finds d P) {s : List UInt8} {a : α} (hs : decode d s = .ok a) : P a := by
  rw [Json.decode] at hs
  dsimp only at hs
  split at hs
  · cases hs
  · rename_i hb
    split at hs
    · cases hs
      exact h _ _ hb
    · cases hs

end ChainElection.Json
