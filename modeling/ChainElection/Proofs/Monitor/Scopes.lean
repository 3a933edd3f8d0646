import Mathlib.Data.Finset.Card
import Mathlib.Tactic
import ChainElection.Monitor.Scope

/-!
Scopes and guards: what holds of them at all times.

* `Scopes.guardsOf` are the guards of an account that are alive.
* `Scopes.Valid` is the invariant: an account has a scope as long as it has
  guards, the scope counts them, they share its signal, no two accounts share
  one, and a signal that is in use is not aborted.
* `Valid.acquire`, `Valid.release`: taking a guard and taking it back keep it.
* `isAborted_acquire`, `isAborted_release`: which signals they abort.
* `Valid.get?_giveBack_scopes`: a guard that is given back at once has changed no
  account's scope.
* `Scopes.Follows`: no signal comes to life again, and an account keeps its
  signal until that is aborted.
-/

namespace ChainElection.Scopes

/-- The guards of an account that are alive. -/
def guardsOf (s : Scopes) (a : Account) : Finset ℕ :=
  s.guards.keys.toFinset.filter fun g => (s.guards.get? g).any fun guard => guard.account = a

lemma mem_guardsOf {s : Scopes} {a : Account} {g : ℕ} :
    g ∈ s.guardsOf a ↔ ∃ guard, s.guards.get? g = some guard ∧ guard.account = a := by
  simp only [guardsOf, Finset.mem_filter, List.mem_toFinset, Option.any_eq_true,
    decide_eq_true_eq]
  refine ⟨fun h => h.2, fun h => ⟨?_, h⟩⟩
  obtain ⟨guard, hg, -⟩ := h
  exact Table.mem_keys_of_get? hg

/-- The holders of an account are what its scope says. -/
lemma holders_congr {s s' : Scopes} {a : Account} (h : s'.scopes.get? a = s.scopes.get? a) :
    s'.holders a = s.holders a := by
  rw [holders, holders, h]

/-- What holds of the scopes at all times. -/
structure Valid (s : Scopes) : Prop where
  guard_lt : ∀ {g guard}, s.guards.get? g = some guard → g < s.nextGuard
  scope_of_guard : ∀ {g guard}, s.guards.get? g = some guard →
    ∃ e, s.scopes.get? guard.account = some e ∧ e.signal = guard.signal
  holders_eq : ∀ {a e}, s.scopes.get? a = some e → e.holders = (s.guardsOf a).card
  holders_pos : ∀ {a e}, s.scopes.get? a = some e → 0 < e.holders
  signal_lt : ∀ {a e}, s.scopes.get? a = some e → e.signal < s.nextSignal
  aborted_lt : ∀ {σ}, s.isAborted σ = true → σ < s.nextSignal
  live : ∀ {a e}, s.scopes.get? a = some e → s.isAborted e.signal = false
  apart : ∀ {a b e e'}, s.scopes.get? a = some e → s.scopes.get? b = some e' →
    e.signal = e'.signal → a = b

lemma Valid.empty : Scopes.empty.Valid := by
  refine ⟨?_, ?_, ?_, ?_, ?_, ?_, ?_, ?_⟩ <;> intros <;> contradiction

/-! ### Taking a guard -/

section Acquire

variable {s : Scopes} {a : Account}

/-- The scope of an account once one more guard of it is alive. -/
def joined (s : Scopes) (a : Account) : Scope :=
  match s.scopes.get? a with
  | some e => ⟨e.signal, e.holders + 1⟩
  | none => ⟨s.nextSignal, 1⟩

lemma joined_of_some {e : Scope} (h : s.scopes.get? a = some e) :
    s.joined a = ⟨e.signal, e.holders + 1⟩ := by
  rw [joined, h]

lemma joined_of_none (h : s.scopes.get? a = none) : s.joined a = ⟨s.nextSignal, 1⟩ := by
  rw [joined, h]

@[simp] lemma acquire_scopes : (s.acquire a).2.scopes = s.scopes.set a (s.joined a) := by
  cases h : s.scopes.get? a <;> simp [acquire, joined, h]

@[simp] lemma acquire_guards :
    (s.acquire a).2.guards = s.guards.set s.nextGuard ⟨a, (s.joined a).signal⟩ := by
  cases h : s.scopes.get? a <;> simp [acquire, joined, h]

@[simp] lemma acquire_nextGuard : (s.acquire a).2.nextGuard = s.nextGuard + 1 := rfl

lemma acquire_nextSignal_of_some {e : Scope} (h : s.scopes.get? a = some e) :
    (s.acquire a).2.nextSignal = s.nextSignal := by
  simp [acquire, h]

lemma acquire_nextSignal_of_none (h : s.scopes.get? a = none) :
    (s.acquire a).2.nextSignal = s.nextSignal + 1 := by
  simp [acquire, h]

lemma le_acquire_nextSignal : s.nextSignal ≤ (s.acquire a).2.nextSignal := by
  cases h : s.scopes.get? a with
  | some e => rw [acquire_nextSignal_of_some h]
  | none => rw [acquire_nextSignal_of_none h]; omega

/-- Taking a guard aborts nothing. -/
@[simp] lemma isAborted_acquire (σ : ℕ) : (s.acquire a).2.isAborted σ = s.isAborted σ := rfl

/-- The guards of an account that are alive once one more is taken. -/
lemma guardsOf_acquire (b : Account) :
    (s.acquire a).2.guardsOf b =
      if a = b then insert s.nextGuard (s.guardsOf b) else (s.guardsOf b).erase s.nextGuard := by
  ext g
  by_cases hab : a = b
  · subst hab
    simp only [mem_guardsOf, acquire_guards, Table.get?_set, ite_true, Finset.mem_insert]
    by_cases hg : s.nextGuard = g
    · simp [hg]
    · simp [hg, Ne.symm hg]
  · simp only [mem_guardsOf, acquire_guards, Table.get?_set, hab, ite_false, Finset.mem_erase]
    by_cases hg : s.nextGuard = g
    · simp [hg, hab]
    · simp [hg, Ne.symm hg]

variable (hs : s.Valid)

include hs in
lemma Valid.nextGuard_notMem (b : Account) : s.nextGuard ∉ s.guardsOf b := by
  intro h
  obtain ⟨guard, hg, -⟩ := mem_guardsOf.mp h
  exact absurd (hs.guard_lt hg) (lt_irrefl _)

include hs in
/-- The signal of a new guard is not aborted. -/
lemma Valid.isAborted_joined : s.isAborted (s.joined a).signal = false := by
  cases h : s.scopes.get? a with
  | some e =>
      have hlive := hs.live h
      rw [joined_of_some h]
      exact hlive
  | none =>
      rw [joined_of_none h, Bool.eq_false_iff]
      exact fun hab => absurd (hs.aborted_lt hab) (lt_irrefl _)

include hs in
/-- The signal of a new guard belongs to no other account. -/
lemma Valid.joined_apart {b : Account} {e : Scope} (hb : s.scopes.get? b = some e)
    (h : e.signal = (s.joined a).signal) : a = b := by
  cases ha : s.scopes.get? a with
  | some e' =>
      rw [joined_of_some ha] at h
      exact hs.apart ha hb h.symm
  | none =>
      rw [joined_of_none ha] at h
      have hlt := hs.signal_lt hb
      simp only at h
      omega

include hs in
lemma Valid.joined_signal_lt : (s.joined a).signal < (s.acquire a).2.nextSignal := by
  cases h : s.scopes.get? a with
  | some e =>
      have hlt := hs.signal_lt h
      rw [joined_of_some h, acquire_nextSignal_of_some h]
      exact hlt
  | none => rw [joined_of_none h, acquire_nextSignal_of_none h]; exact Nat.lt_succ_self _

include hs in
/-- An account without a scope has no guards. -/
lemma Valid.guardsOf_eq_empty (h : s.scopes.get? a = none) : s.guardsOf a = ∅ := by
  refine Finset.eq_empty_of_forall_notMem fun g hg => ?_
  obtain ⟨guard, hguard, rfl⟩ := mem_guardsOf.mp hg
  obtain ⟨e, he, -⟩ := hs.scope_of_guard hguard
  rw [h] at he
  cases he

include hs in
/-- The guards of an account are counted. -/
lemma Valid.holders_eq_card (a : Account) : s.holders a = (s.guardsOf a).card := by
  rw [holders]
  split
  · rename_i e he
    exact hs.holders_eq he
  · rename_i hnone
    rw [hs.guardsOf_eq_empty hnone, Finset.card_empty]

include hs in
lemma Valid.joined_holders : (s.joined a).holders = (s.guardsOf a).card + 1 := by
  cases h : s.scopes.get? a with
  | some e => rw [joined_of_some h, ← hs.holders_eq h]
  | none => rw [joined_of_none h, hs.guardsOf_eq_empty h, Finset.card_empty]

include hs in
/-- Taking a guard keeps the invariant. -/
theorem Valid.acquire : (s.acquire a).2.Valid where
  guard_lt := by
    intro g guard hg
    rw [acquire_guards, Table.get?_set] at hg
    rw [acquire_nextGuard]
    split at hg
    · omega
    · exact Nat.lt_succ_of_lt (hs.guard_lt hg)
  scope_of_guard := by
    intro g guard hg
    rw [acquire_guards, Table.get?_set] at hg
    rw [acquire_scopes]
    split at hg
    · cases hg
      exact ⟨s.joined a, Table.get?_set_self .., rfl⟩
    · obtain ⟨e, he, hsig⟩ := hs.scope_of_guard hg
      rw [Table.get?_set]
      by_cases hag : a = guard.account
      · refine ⟨s.joined a, if_pos hag, ?_⟩
        rw [joined_of_some (hag ▸ he), hsig]
      · exact ⟨e, by rw [if_neg hag, he], hsig⟩
  holders_eq := by
    intro b e hb
    rw [acquire_scopes, Table.get?_set] at hb
    rw [guardsOf_acquire]
    split at hb
    · rename_i hab
      cases hb
      subst hab
      rw [if_pos rfl, Finset.card_insert_of_notMem (hs.nextGuard_notMem a), hs.joined_holders]
    · rename_i hab
      rw [if_neg hab, Finset.erase_eq_of_notMem (hs.nextGuard_notMem b), hs.holders_eq hb]
  holders_pos := by
    intro b e hb
    rw [acquire_scopes, Table.get?_set] at hb
    split at hb
    · cases hb
      rw [hs.joined_holders]
      exact Nat.succ_pos _
    · exact hs.holders_pos hb
  signal_lt := by
    intro b e hb
    rw [acquire_scopes, Table.get?_set] at hb
    split at hb
    · cases hb
      exact hs.joined_signal_lt
    · exact lt_of_lt_of_le (hs.signal_lt hb) le_acquire_nextSignal
  aborted_lt := fun h => lt_of_lt_of_le (hs.aborted_lt h) le_acquire_nextSignal
  live := by
    intro b e hb
    rw [acquire_scopes, Table.get?_set] at hb
    rw [isAborted_acquire]
    split at hb
    · cases hb
      exact hs.isAborted_joined
    · exact hs.live hb
  apart := by
    intro b c e e' hb hc hsig
    rw [acquire_scopes, Table.get?_set] at hb hc
    split at hb <;> split at hc
    · rename_i hab hac
      exact hab.symm.trans hac
    · rename_i hab _
      cases hb
      exact hab.symm.trans (hs.joined_apart hc hsig.symm)
    · rename_i _ hac
      cases hc
      exact (hs.joined_apart hb hsig).symm.trans hac
    · exact hs.apart hb hc hsig

end Acquire

/-! ### Taking a guard back -/

section Release

variable {s : Scopes} {g : ℕ} {guard : Guard} {e : Scope}

lemma release_of_none (hg : s.guards.get? g = none) : s.release g = s := by
  rw [release, hg]

/-- The last guard of an account takes the scope with it and aborts its signal. -/
lemma release_of_last (hg : s.guards.get? g = some guard)
    (he : s.scopes.get? guard.account = some e) (hone : e.holders = 1) :
    s.release g = { s with
      guards := s.guards.erase g
      scopes := s.scopes.erase guard.account
      aborted := e.signal :: s.aborted } := by
  simp [release, hg, he, hone]

/-- Every other guard is only counted off. -/
lemma release_of_others (hg : s.guards.get? g = some guard)
    (he : s.scopes.get? guard.account = some e) (hone : e.holders ≠ 1) :
    s.release g = { s with
      guards := s.guards.erase g
      scopes := s.scopes.set guard.account ⟨e.signal, e.holders - 1⟩ } := by
  simp [release, hg, he, hone]

lemma release_guards : (s.release g).guards = s.guards.erase g ∨
    s.guards.get? g = none ∧ s.release g = s := by
  cases hg : s.guards.get? g with
  | none => exact .inr ⟨rfl, release_of_none hg⟩
  | some guard =>
      left
      rw [release, hg]
      dsimp only
      split
      · rfl
      · split <;> rfl

lemma get?_release_guards (k : ℕ) :
    (s.release g).guards.get? k = if g = k then none else s.guards.get? k := by
  rcases release_guards (s := s) (g := g) with h | ⟨hg, h⟩
  · rw [h, Table.get?_erase]
  · rw [h]
    split
    · rename_i hk
      rw [← hk, hg]
    · rfl

/-- The guards of an account that are alive once one is taken back. -/
lemma guardsOf_release (b : Account) : (s.release g).guardsOf b = (s.guardsOf b).erase g := by
  ext k
  simp only [mem_guardsOf, get?_release_guards, Finset.mem_erase]
  by_cases hk : g = k
  · simp [hk]
  · simp [hk, Ne.symm hk]

/-- A signal that is aborted stays aborted. -/
lemma isAborted_release_of_isAborted {σ : ℕ} (h : s.isAborted σ = true) :
    (s.release g).isAborted σ = true := by
  rw [release]
  split
  · exact h
  · dsimp only
    split
    · exact h
    · split
      · simp only [isAborted, List.contains_cons] at h ⊢
        rw [h, Bool.or_true]
      · exact h

/-- Taking a guard back aborts at most the signal of its scope, and this only with the last guard. -/
lemma isAborted_release (hg : s.guards.get? g = some guard)
    (he : s.scopes.get? guard.account = some e) (σ : ℕ) :
    (s.release g).isAborted σ = (s.isAborted σ || (decide (e.holders = 1) && decide (σ = e.signal))) := by
  by_cases hone : e.holders = 1
  · rw [release_of_last hg he hone]
    simp [isAborted, hone, Bool.or_comm]
  · rw [release_of_others hg he hone]
    simp [isAborted, hone]

variable (hs : s.Valid)

include hs in
/-- A guard that is alive is the last of its account if the scope counts one. -/
lemma Valid.holders_eq_one_iff (hg : s.guards.get? g = some guard)
    (he : s.scopes.get? guard.account = some e) :
    e.holders = 1 ↔ s.guardsOf guard.account = {g} := by
  have hmem : g ∈ s.guardsOf guard.account := mem_guardsOf.mpr ⟨guard, hg, rfl⟩
  rw [hs.holders_eq he]
  constructor
  · intro hcard
    obtain ⟨k, hk⟩ := Finset.card_eq_one.mp hcard
    rw [hk, Finset.mem_singleton] at hmem
    rw [hk, hmem]
  · intro h
    rw [h, Finset.card_singleton]

include hs in
/-- Taking back the last guard of an account aborts its signal. -/
theorem Valid.isAborted_release_of_last (hg : s.guards.get? g = some guard)
    (hlast : s.guardsOf guard.account = {g}) : (s.release g).isAborted guard.signal = true := by
  obtain ⟨e, he, hsig⟩ := hs.scope_of_guard hg
  rw [release_of_last hg he ((hs.holders_eq_one_iff hg he).mpr hlast), isAborted, hsig]
  simp

include hs in
/-- Taking back a guard of an account that has others aborts nothing. -/
lemma Valid.isAborted_release_of_others (hg : s.guards.get? g = some guard) {k : ℕ}
    (hk : k ∈ s.guardsOf guard.account) (hne : k ≠ g) (σ : ℕ) :
    (s.release g).isAborted σ = s.isAborted σ := by
  obtain ⟨e, he, -⟩ := hs.scope_of_guard hg
  have hmany : e.holders ≠ 1 := by
    intro hone
    rw [(hs.holders_eq_one_iff hg he).mp hone, Finset.mem_singleton] at hk
    exact hne hk
  rw [isAborted_release hg he, decide_eq_false hmany, Bool.false_and, Bool.or_false]

include hs in
/-- What taking a guard back does to the scopes: the one of its account goes with the last guard, or is
counted off; the others stay. -/
lemma Valid.get?_release_scopes (hg : s.guards.get? g = some guard) (b : Account) :
    (s.release g).scopes.get? b =
      if guard.account = b then
        (s.scopes.get? b).bind fun e =>
          if e.holders = 1 then none else some ⟨e.signal, e.holders - 1⟩
      else s.scopes.get? b := by
  obtain ⟨e, he, -⟩ := hs.scope_of_guard hg
  by_cases hb : guard.account = b
  · rw [if_pos hb, ← hb, he, Option.bind_some]
    by_cases hone : e.holders = 1
    · rw [release_of_last hg he hone, if_pos hone, Table.get?_erase, if_pos rfl]
    · rw [release_of_others hg he hone, if_neg hone, Table.get?_set_self]
  · rw [if_neg hb]
    by_cases hone : e.holders = 1
    · rw [release_of_last hg he hone, Table.get?_erase, if_neg hb]
    · rw [release_of_others hg he hone, Table.get?_set, if_neg hb]

include hs in
/-- A scope that is left after a guard was taken back was there before, with the same signal. -/
lemma Valid.of_get?_release (hg : s.guards.get? g = some guard) {b : Account} {e' : Scope}
    (hb : (s.release g).scopes.get? b = some e') :
    ∃ e, s.scopes.get? b = some e ∧ e'.signal = e.signal ∧ (guard.account = b → e.holders ≠ 1) ∧
      e'.holders = if guard.account = b then e.holders - 1 else e.holders := by
  rw [hs.get?_release_scopes hg] at hb
  split at hb
  · rename_i hab
    obtain ⟨e, he, h⟩ := Option.bind_eq_some_iff.mp hb
    split at h
    · cases h
    · rename_i hone
      cases h
      exact ⟨e, he, rfl, fun _ => hone, by rw [if_pos hab]⟩
  · rename_i hab
    exact ⟨e', hb, rfl, fun h => absurd h hab, by rw [if_neg hab]⟩

lemma release_nextSignal : (s.release g).nextSignal = s.nextSignal := by
  rw [release]
  split
  · rfl
  · dsimp only
    split
    · rfl
    · split <;> rfl

lemma release_nextGuard : (s.release g).nextGuard = s.nextGuard := by
  rw [release]
  split
  · rfl
  · dsimp only
    split
    · rfl
    · split <;> rfl

include hs in
lemma Valid.release_of_some (hg : s.guards.get? g = some guard)
    (he : s.scopes.get? guard.account = some e) : (s.release g).Valid where
  guard_lt := by
    intro k gd hk
    rw [get?_release_guards] at hk
    rw [release_nextGuard]
    split at hk
    · cases hk
    · exact hs.guard_lt hk
  scope_of_guard := by
    -- a guard that is left keeps its scope: if it is of the same account, it is counted too
    intro k gd hk
    rw [get?_release_guards] at hk
    split at hk
    · cases hk
    · rename_i hgk
      obtain ⟨e', he', hsig'⟩ := hs.scope_of_guard hk
      rw [hs.get?_release_scopes hg]
      by_cases hab : guard.account = gd.account
      · have hone : e'.holders ≠ 1 := by
          rw [← hab, he] at he'
          cases he'
          intro h
          have hk' : k ∈ s.guardsOf guard.account := mem_guardsOf.mpr ⟨gd, hk, hab.symm⟩
          rw [(hs.holders_eq_one_iff hg he).mp h, Finset.mem_singleton] at hk'
          exact hgk hk'.symm
        exact ⟨⟨e'.signal, e'.holders - 1⟩, by simp [hab, he', hone], hsig'⟩
      · exact ⟨e', by rw [if_neg hab, he'], hsig'⟩
  holders_eq := by
    intro b e' hb
    obtain ⟨e₀, he₀, -, -, hholders⟩ := hs.of_get?_release hg hb
    rw [guardsOf_release, hholders]
    split
    · rename_i hab
      have hmem : g ∈ s.guardsOf b := mem_guardsOf.mpr ⟨guard, hg, hab⟩
      rw [Finset.card_erase_of_mem hmem, hs.holders_eq he₀]
    · rename_i hab
      rw [Finset.erase_eq_of_notMem, hs.holders_eq he₀]
      intro hmem
      obtain ⟨gd, hgd, hb'⟩ := mem_guardsOf.mp hmem
      rw [hg] at hgd
      cases hgd
      exact hab hb'
  holders_pos := by
    intro b e' hb
    obtain ⟨e₀, he₀, -, hone, hholders⟩ := hs.of_get?_release hg hb
    have hpos := hs.holders_pos he₀
    rw [hholders]
    split
    · rename_i hab
      have := hone hab
      omega
    · exact hpos
  signal_lt := by
    intro b e' hb
    obtain ⟨e₀, he₀, hsig₀, -, -⟩ := hs.of_get?_release hg hb
    rw [hsig₀, release_nextSignal]
    exact hs.signal_lt he₀
  aborted_lt := by
    intro σ hσ
    rw [isAborted_release hg he, Bool.or_eq_true, Bool.and_eq_true, decide_eq_true_eq,
      decide_eq_true_eq] at hσ
    rw [release_nextSignal]
    rcases hσ with hσ | ⟨-, rfl⟩
    · exact hs.aborted_lt hσ
    · exact hs.signal_lt he
  live := by
    -- the aborted signal was that of the account whose last guard went
    intro b e' hb
    obtain ⟨e₀, he₀, hsig₀, hone, -⟩ := hs.of_get?_release hg hb
    rw [isAborted_release hg he, hsig₀, hs.live he₀, Bool.false_or, Bool.and_eq_false_iff,
      decide_eq_false_iff_not, decide_eq_false_iff_not]
    by_cases h : e₀.signal = e.signal
    · left
      have hb' := hs.apart he he₀ h.symm
      have hne := hone hb'
      rw [← hb', he] at he₀
      cases he₀
      exact hne
    · exact .inr h
  apart := by
    intro b c e₁ e₂ hb hc h
    obtain ⟨e₁', he₁, hsig₁, -, -⟩ := hs.of_get?_release hg hb
    obtain ⟨e₂', he₂, hsig₂, -, -⟩ := hs.of_get?_release hg hc
    have hsig : e₁'.signal = e₂'.signal := calc
      e₁'.signal = e₁.signal := hsig₁.symm
      _ = e₂.signal := h
      _ = e₂'.signal := hsig₂
    exact hs.apart he₁ he₂ hsig

include hs in
/-- Taking a guard back keeps the invariant. -/
theorem Valid.release : (s.release g).Valid := by
  cases hg : s.guards.get? g with
  | none => rw [release_of_none hg]; exact hs
  | some guard =>
      obtain ⟨e, he, -⟩ := hs.scope_of_guard hg
      exact hs.release_of_some hg he

end Release

/-! ### Taking a guard and giving it back -/

section GiveBack

variable {s : Scopes} (hs : s.Valid) (a : Account)

lemma get?_acquire_nextGuard :
    (s.acquire a).2.guards.get? s.nextGuard = some ⟨a, (s.joined a).signal⟩ := by
  rw [acquire_guards, Table.get?_set_self]

include hs in
/-- A guard that is given back at once leaves the scopes of all accounts as they were. -/
lemma Valid.get?_giveBack_scopes (b : Account) :
    ((s.acquire a).2.release s.nextGuard).scopes.get? b = s.scopes.get? b := by
  rw [hs.acquire.get?_release_scopes (get?_acquire_nextGuard a), acquire_scopes, Table.get?_set]
  split
  · rename_i hab
    subst hab
    rw [Option.bind_some]
    cases he : s.scopes.get? a with
    | none => rw [joined_of_none he, if_pos rfl]
    | some e =>
        have hmany : e.holders + 1 ≠ 1 := by
          have hpos := hs.holders_pos he
          omega
        rw [joined_of_some he, if_neg hmany, Nat.add_sub_cancel]
  · rfl

include hs in
lemma Valid.get?_giveBack_guards (k : ℕ) :
    ((s.acquire a).2.release s.nextGuard).guards.get? k = s.guards.get? k := by
  rw [get?_release_guards, acquire_guards, Table.get?_set]
  split
  · rename_i hk
    subst hk
    cases hg : s.guards.get? s.nextGuard with
    | none => rfl
    | some guard => exact absurd (hs.guard_lt hg) (lt_irrefl _)
  · rfl

include hs in
/-- At most a signal that was made for it is aborted. -/
lemma Valid.isAborted_giveBack {σ : ℕ} (hσ : σ < s.nextSignal) :
    ((s.acquire a).2.release s.nextGuard).isAborted σ = s.isAborted σ := by
  cases he : s.scopes.get? a with
  | none =>
      have hjoined : (s.acquire a).2.scopes.get? a = some ⟨s.nextSignal, 1⟩ := by
        rw [acquire_scopes, Table.get?_set_self, joined_of_none he]
      rw [isAborted_release (get?_acquire_nextGuard a) hjoined, decide_eq_false hσ.ne, Bool.and_false,
        Bool.or_false, isAborted_acquire]
  | some e =>
      obtain ⟨k, hk⟩ := Finset.card_pos.mp (hs.holders_eq he ▸ hs.holders_pos he)
      have hne : k ≠ s.nextGuard := fun h => hs.nextGuard_notMem a (h ▸ hk)
      have hold : k ∈ (s.acquire a).2.guardsOf a := by
        rw [guardsOf_acquire, if_pos rfl]
        exact Finset.mem_insert_of_mem hk
      rw [hs.acquire.isAborted_release_of_others (get?_acquire_nextGuard a) hold hne, isAborted_acquire]

end GiveBack

/-! ### Scopes at a later time -/

/-- The second scopes are the first at a later time: no signal comes to life again, and the signal of an
account's scope stays what it is until it is aborted. -/
structure Follows (s s' : Scopes) : Prop where
  aborted : ∀ {σ}, s.isAborted σ = true → s'.isAborted σ = true
  signal : ∀ {a e}, s.scopes.get? a = some e → s'.isAborted e.signal = true ∨
    ∃ e', s'.scopes.get? a = some e' ∧ e'.signal = e.signal

section Follows

variable {s s' : Scopes}

lemma Follows.refl (s : Scopes) : s.Follows s := ⟨fun h => h, fun he => .inr ⟨_, he, rfl⟩⟩

lemma Follows.trans {s'' : Scopes} (h : s.Follows s') (h' : s'.Follows s'') : s.Follows s'' := by
  refine ⟨fun hσ => h'.aborted (h.aborted hσ), fun {a e} he => ?_⟩
  rcases h.signal he with haborted | ⟨e', he', hsig⟩
  · exact .inl (h'.aborted haborted)
  · rw [← hsig]
    exact h'.signal he'

/-- A signal that is alive was alive before. -/
lemma Follows.live (h : s.Follows s') {σ : ℕ} (hσ : s'.isAborted σ = false) :
    s.isAborted σ = false := by
  rw [Bool.eq_false_iff] at hσ ⊢
  exact fun hab => hσ (h.aborted hab)

lemma follows_acquire (s : Scopes) (a : Account) : s.Follows (s.acquire a).2 := by
  refine ⟨fun h => h, fun {b e} hb => .inr ?_⟩
  rw [acquire_scopes, Table.get?_set]
  by_cases hab : a = b
  · exact ⟨_, if_pos hab, by rw [joined_of_some (hab ▸ hb)]⟩
  · exact ⟨e, by rw [if_neg hab, hb], rfl⟩

lemma Valid.follows_release (hs : s.Valid) (g : ℕ) : s.Follows (s.release g) := by
  refine ⟨isAborted_release_of_isAborted, fun {b e} hb => ?_⟩
  cases hg : s.guards.get? g with
  | none => exact .inr ⟨e, by rw [release_of_none hg, hb], rfl⟩
  | some guard =>
      rw [hs.get?_release_scopes hg, hb]
      by_cases hab : guard.account = b
      · subst hab
        by_cases hone : e.holders = 1
        · left
          rw [isAborted_release hg hb]
          simp [hone]
        · exact .inr ⟨⟨e.signal, e.holders - 1⟩,
            by rw [if_pos rfl, Option.bind_some, if_neg hone], rfl⟩
      · exact .inr ⟨e, by rw [if_neg hab], rfl⟩

end Follows

end ChainElection.Scopes
