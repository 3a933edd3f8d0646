import Mathlib.Tactic
import ChainElection.Monitor.Run
import ChainElection.Proofs.Monitor.Scopes

/-!
Scopes and their holders in the course of a run.

* `Scopes.heldBy` are the guards of an account that were taken in a run and not
  taken back; it looks at nothing but the events. `Tallies.act`: these are the
  guards that are alive.
* `Scopes.OwnedBy`: the scopes are what guards make them that are alive.
* `Valid.isAborted_iff_of_follows`: when a signal that guards have had is
  aborted. `Valid.aborts_iff`: which event aborts it.
* `Valid.act_other`, `Valid.isAborted_act_other`: what an event does not do to
  another account.
* `scopes_follow_their_guards` puts all of this together.
-/

namespace ChainElection

/-- One more at the end makes no difference to what stands elsewhere. -/
lemma getElem?_concat_of_ne {α : Type} {l : List α} {n : ℕ} (a : α) (hn : n ≠ l.length) :
    (l ++ [a])[n]? = l[n]? := by
  rcases hn.lt_or_gt with hlt | hgt
  · exact List.getElem?_append_left hlt
  · rw [List.getElem?_eq_none hgt.le, List.getElem?_eq_none (by simpa using hgt)]

/-- For whom an event takes a guard, if it takes one. -/
def ScopeAction.taker? : ScopeAction → Option Account
  | .acquire a => some a
  | .release _ => none

namespace Scopes

variable {s s' s₀ : Scopes} {a b : Account} {g σ : ℕ} {x : ScopeAction} {xs ys : List ScopeAction}

/-! ### Guards that are held -/

/-- For whom guards are taken in a run, in order. Guards are numbered in this order too. -/
def takers (xs : List ScopeAction) : List Account := xs.filterMap ScopeAction.taker?

/-- The guards of an account that are taken in a run and not taken back. -/
def heldBy (xs : List ScopeAction) (a : Account) : Finset ℕ :=
  (Finset.range (takers xs).length).filter fun g =>
    (takers xs)[g]? = some a ∧ ScopeAction.release g ∉ xs

lemma mem_heldBy : g ∈ heldBy xs a ↔ (takers xs)[g]? = some a ∧ ScopeAction.release g ∉ xs := by
  rw [heldBy, Finset.mem_filter, Finset.mem_range, and_iff_right_iff_imp]
  rintro ⟨hg, -⟩
  exact (List.getElem?_eq_some_iff.mp hg).1

lemma takers_concat (xs : List ScopeAction) (x : ScopeAction) :
    takers (xs ++ [x]) = takers xs ++ x.taker?.toList := by
  rw [takers, List.filterMap_append]
  cases h : x.taker? with
  | none => simp [takers, h]
  | some a => simp [takers, h]

/-- What holds after a run: the scopes are valid, and the guards that are held are those that are
alive. -/
structure Tallies (xs : List ScopeAction) (s : Scopes) : Prop where
  valid : s.Valid
  next : s.nextGuard = (takers xs).length
  released_lt : ∀ {g}, ScopeAction.release g ∈ xs → g < s.nextGuard
  mem_iff : ∀ {g a}, g ∈ heldBy xs a ↔ ∃ σ, s.guards.get? g = some ⟨a, σ⟩

lemma Tallies.nil : Tallies [] .empty where
  valid := .empty
  next := rfl
  released_lt := nofun
  mem_iff := by
    intro g a
    rw [mem_heldBy]
    exact ⟨nofun, nofun⟩

/-- A guard that is taken is held from now on. -/
lemma Tallies.acquire (ht : Tallies xs s) (b : Account) :
    Tallies (xs ++ [.acquire b]) (s.acquire b).2 where
  valid := ht.valid.acquire
  next := by
    rw [acquire_nextGuard, ht.next, takers_concat, List.length_append]
    rfl
  released_lt := by
    intro g hg
    rw [List.mem_append, List.mem_singleton] at hg
    rw [acquire_nextGuard]
    rcases hg with hg | hg
    · exact Nat.lt_succ_of_lt (ht.released_lt hg)
    · cases hg
  mem_iff := by
    intro g a
    have hrelease : ScopeAction.release g ∈ xs ++ [.acquire b] ↔ ScopeAction.release g ∈ xs := by
      simp
    rw [mem_heldBy, takers_concat, hrelease, acquire_guards, Table.get?_set]
    by_cases hg : s.nextGuard = g
    · subst hg
      have hfresh : ScopeAction.release s.nextGuard ∉ xs := fun h =>
        absurd (ht.released_lt h) (lt_irrefl _)
      simp [ht.next ▸ hfresh, ht.next, ScopeAction.taker?]
    · -- the other guards are those from before
      have hold : (takers xs ++ [b])[g]? = (takers xs)[g]? :=
        getElem?_concat_of_ne b (ht.next ▸ Ne.symm hg)
      rw [if_neg hg, ← ht.mem_iff, mem_heldBy]
      exact and_congr_left fun _ => by rw [← hold]; rfl

/-- A guard that is taken back is not held any more. -/
lemma Tallies.release (ht : Tallies xs s) {guard : Guard} (hk : s.guards.get? g = some guard) :
    Tallies (xs ++ [.release g]) (s.release g) where
  valid := ht.valid.release
  next := by
    rw [release_nextGuard, ht.next, takers_concat]
    exact congrArg List.length (List.append_nil _).symm
  released_lt := by
    intro k hk'
    rw [List.mem_append, List.mem_singleton] at hk'
    rw [release_nextGuard]
    rcases hk' with hk' | hk'
    · exact ht.released_lt hk'
    · cases hk'
      exact ht.valid.guard_lt hk
  mem_iff := by
    intro k a
    have htakers : takers (xs ++ [.release g]) = takers xs := by
      rw [takers_concat]
      exact List.append_nil _
    rw [mem_heldBy, htakers, get?_release_guards]
    by_cases hgk : g = k
    · simp [hgk]
    · rw [if_neg hgk, ← ht.mem_iff, mem_heldBy]
      simp [Ne.symm hgk]

lemma Tallies.act (ht : Tallies xs s) (h : s.act x = some s') : Tallies (xs ++ [x]) s' := by
  cases x with
  | acquire b =>
      cases h
      exact ht.acquire b
  | release g =>
      obtain ⟨guard, hg, rfl⟩ := Option.map_eq_some_iff.mp h
      exact ht.release hg

/-- What every event of a run keeps, as the run gets longer, holds after the run. -/
lemma run_induction {P : List ScopeAction → Scopes → Prop}
    (hact : ∀ {xs s s' x}, P xs s → s.act x = some s' → P (xs ++ [x]) s')
    {ys : List ScopeAction} : ∀ {xs s s'}, s.run ys = some s' → P xs s → P (xs ++ ys) s' := by
  induction ys with
  | nil =>
      intro xs s s' h hP
      cases h
      rwa [List.append_nil]
  | cons y r ih =>
      intro xs s s' h hP
      obtain ⟨s₁, hy, hr⟩ := Option.bind_eq_some_iff.mp h
      have hP' := ih hr (hact hP hy)
      rwa [List.append_assoc] at hP'

lemma Tallies.run (ht : Tallies xs s) (h : s.run ys = some s') : Tallies (xs ++ ys) s' :=
  run_induction (P := Tallies) Tallies.act h ht

/-! ### What guards make of scopes -/

/-- The scopes are what the guards make them that are held: these are alive and counted, an account has a
scope as long as it has guards, releasing one counts it off, and all of an account share the signal of its
scope, which is not aborted. -/
structure OwnedBy (s : Scopes) (held : Account → Finset ℕ) : Prop where
  mem_iff : ∀ {g a}, g ∈ held a ↔ ∃ σ, s.guards.get? g = some ⟨a, σ⟩
  holders_eq : ∀ a, s.holders a = (held a).card
  isSome_iff : ∀ a, (s.scopes.get? a).isSome = true ↔ (held a).Nonempty
  release : ∀ {g a}, g ∈ held a → (∃ e, s.scopes.get? a = some e ∧ 0 < e.holders) ∧
    ∃ s', s.act (.release g) = some s' ∧ s'.holders a + 1 = s.holders a
  shared : ∀ {a e}, s.scopes.get? a = some e → s.isAborted e.signal = false ∧
    ∀ g ∈ held a, s.guards.get? g = some ⟨a, e.signal⟩

lemma Valid.isSome_iff (hs : s.Valid) (a : Account) :
    (s.scopes.get? a).isSome = true ↔ (s.guardsOf a).Nonempty := by
  cases h : s.scopes.get? a with
  | none => simp [hs.guardsOf_eq_empty h]
  | some e =>
      have hpos := hs.holders_pos h
      rw [hs.holders_eq h] at hpos
      simpa using Finset.card_pos.mp hpos

/-- The guards of an account share the signal of its scope. -/
lemma Valid.eq_of_guard (hs : s.Valid) {e : Scope} (he : s.scopes.get? a = some e)
    (hg : s.guards.get? g = some ⟨a, σ⟩) : σ = e.signal := by
  obtain ⟨e', he', rfl⟩ := hs.scope_of_guard hg
  rw [he, Option.some.injEq] at he'
  rw [he']

/-- Taking a guard back counts it off. -/
lemma Valid.holders_release (hs : s.Valid) (hg : s.guards.get? g = some ⟨a, σ⟩) :
    (s.release g).holders a + 1 = s.holders a := by
  have hmem : g ∈ s.guardsOf a := mem_guardsOf.mpr ⟨_, hg, rfl⟩
  rw [hs.release.holders_eq_card, hs.holders_eq_card, guardsOf_release]
  exact Finset.card_erase_add_one hmem

lemma Tallies.guardsOf_eq (ht : Tallies xs s) (a : Account) : s.guardsOf a = heldBy xs a := by
  ext g
  rw [mem_guardsOf, ht.mem_iff]
  constructor
  · rintro ⟨⟨b, σ⟩, hg, rfl⟩
    exact ⟨σ, hg⟩
  · rintro ⟨σ, hg⟩
    exact ⟨⟨a, σ⟩, hg, rfl⟩

lemma Tallies.ownedBy (ht : Tallies xs s) : s.OwnedBy (heldBy xs) where
  mem_iff := ht.mem_iff
  holders_eq := fun a => by rw [ht.valid.holders_eq_card, ht.guardsOf_eq]
  isSome_iff := fun a => by rw [ht.valid.isSome_iff, ht.guardsOf_eq]
  release := by
    intro g a hmem
    obtain ⟨σ, hg⟩ := ht.mem_iff.mp hmem
    obtain ⟨e, he, -⟩ := ht.valid.scope_of_guard hg
    exact ⟨⟨e, he, ht.valid.holders_pos he⟩, s.release g, by rw [Scopes.act, hg, Option.map_some],
      ht.valid.holders_release hg⟩
  shared := by
    intro a e he
    refine ⟨ht.valid.live he, fun g hmem => ?_⟩
    obtain ⟨σ, hg⟩ := ht.mem_iff.mp hmem
    rw [hg, ht.valid.eq_of_guard he hg]

/-! ### Signals over time -/

lemma Valid.act_follows (hs : s.Valid) (h : s.act x = some s') : s.Follows s' := by
  cases x with
  | acquire b =>
      cases h
      exact follows_acquire s b
  | release g =>
      obtain ⟨-, -, rfl⟩ := Option.map_eq_some_iff.mp h
      exact hs.follows_release g

lemma Tallies.run_follows (ht : Tallies xs s) (h : s.run ys = some s') : s.Follows s' :=
  (run_induction (P := fun zs u => Tallies zs u ∧ s.Follows u)
    (fun hu hact => ⟨hu.1.act hact, hu.2.trans (hu.1.valid.act_follows hact)⟩) h ⟨ht, .refl s⟩).2

/-- A signal that guards have had at some time is that of their account's scope as long as it is alive. -/
lemma Follows.isAborted_or (hf : s₀.Follows s) (hs₀ : s₀.Valid)
    (hg : s₀.guards.get? g = some ⟨a, σ⟩) :
    s.isAborted σ = true ∨ ∃ e, s.scopes.get? a = some e ∧ e.signal = σ := by
  obtain ⟨e, he, rfl⟩ := hs₀.scope_of_guard hg
  exact hf.signal he

/-- A signal that guards have had at some time is aborted as soon as none of them is alive. -/
lemma Valid.isAborted_iff_of_follows (hs : s.Valid) (hs₀ : s₀.Valid) (hf : s₀.Follows s)
    (hg : s₀.guards.get? g = some ⟨a, σ⟩) :
    s.isAborted σ = true ↔ ∀ k b, s.guards.get? k ≠ some ⟨b, σ⟩ := by
  constructor
  · intro haborted k b hk
    obtain ⟨e, he, rfl⟩ := hs.scope_of_guard hk
    rw [hs.live he] at haborted
    cases haborted
  · intro hnone
    rcases hf.isAborted_or hs₀ hg with haborted | ⟨e, he, rfl⟩
    · exact haborted
    · obtain ⟨k, hk⟩ := (hs.isSome_iff a).mp (by rw [he]; rfl)
      obtain ⟨⟨b, τ⟩, hguard, rfl⟩ := mem_guardsOf.mp hk
      exact absurd (hs.eq_of_guard he hguard ▸ hguard) (hnone k b)

/-- Two guards that share a signal are of one account. -/
lemma Valid.account_eq (hs : s.Valid) {k : ℕ} (hg : s.guards.get? g = some ⟨a, σ⟩)
    (hk : s.guards.get? k = some ⟨b, σ⟩) : a = b := by
  obtain ⟨e, he, hsig⟩ := hs.scope_of_guard hg
  obtain ⟨e', he', hsig'⟩ := hs.scope_of_guard hk
  exact hs.apart he he' (hsig.trans hsig'.symm)

/-- The guards that share a guard's signal are those of its account. -/
lemma Valid.guardsOf_eq_singleton_iff (hs : s.Valid) (hg : s.guards.get? g = some ⟨a, σ⟩) :
    s.guardsOf a = {g} ↔ ∀ k b, s.guards.get? k = some ⟨b, σ⟩ → k = g := by
  constructor
  · intro hlast k b hk
    obtain rfl := hs.account_eq hg hk
    have hmem : k ∈ s.guardsOf a := mem_guardsOf.mpr ⟨_, hk, rfl⟩
    rw [hlast] at hmem
    exact Finset.mem_singleton.mp hmem
  · intro hall
    refine Finset.eq_singleton_iff_unique_mem.mpr ⟨mem_guardsOf.mpr ⟨_, hg, rfl⟩, fun k hk => ?_⟩
    obtain ⟨⟨b, τ⟩, hguard, rfl⟩ := mem_guardsOf.mp hk
    obtain ⟨e, he, rfl⟩ := hs.scope_of_guard hg
    exact hall k b (hs.eq_of_guard he hguard ▸ hguard)

/-- A signal is aborted by taking back the last guard that has it, and by nothing else. -/
lemma Valid.aborts_iff (hs : s.Valid) (h : s.act x = some s') (σ : ℕ) :
    s.isAborted σ = false ∧ s'.isAborted σ = true ↔
      ∃ k b, x = .release k ∧ s.guards.get? k = some ⟨b, σ⟩ ∧
        ∀ j c, s.guards.get? j = some ⟨c, σ⟩ → j = k := by
  cases x with
  | acquire a =>
      cases h
      rw [isAborted_acquire]
      refine ⟨fun hσ => ?_, fun ⟨k, b, hx, _⟩ => by cases hx⟩
      rw [hσ.1] at hσ
      cases hσ.2
  | release g =>
      obtain ⟨⟨a, τ⟩, hg, rfl⟩ := Option.map_eq_some_iff.mp h
      obtain ⟨e, he, rfl⟩ := hs.scope_of_guard hg
      have hone := (hs.holders_eq_one_iff hg he).trans (hs.guardsOf_eq_singleton_iff hg)
      rw [isAborted_release hg he]
      constructor
      · rintro ⟨hlive, haborted⟩
        rw [hlive, Bool.false_or, Bool.and_eq_true, decide_eq_true_eq, decide_eq_true_eq] at haborted
        obtain ⟨hlast, rfl⟩ := haborted
        exact ⟨g, a, rfl, hg, hone.mp hlast⟩
      · rintro ⟨k, b, ⟨⟩, hk, hlast⟩
        rw [hg] at hk
        cases hk
        exact ⟨hs.live he, by simp [hone.mpr hlast]⟩

/-! ### Other accounts -/

/-- An event for one account leaves the scope and the guards of every other one as they are. -/
lemma Valid.act_other (hs : s.Valid) (h : s.act x = some s') (ha : s.accountOf x ≠ some a) :
    s'.scopes.get? a = s.scopes.get? a ∧
      ∀ g σ, s'.guards.get? g = some ⟨a, σ⟩ ↔ s.guards.get? g = some ⟨a, σ⟩ := by
  cases x with
  | acquire b =>
      cases h
      have hne : b ≠ a := fun heq => ha (heq ▸ rfl)
      refine ⟨by rw [acquire_scopes, Table.get?_set, if_neg hne], fun g σ => ?_⟩
      rw [acquire_guards, Table.get?_set]
      by_cases hg : s.nextGuard = g
      · subst hg
        rw [if_pos rfl]
        refine ⟨fun heq => ?_, fun hg => absurd (hs.guard_lt hg) (lt_irrefl _)⟩
        exact absurd (congrArg Guard.account (Option.some.inj heq)) hne
      · rw [if_neg hg]
  | release k =>
      obtain ⟨⟨b, τ⟩, hk, rfl⟩ := Option.map_eq_some_iff.mp h
      have hne : b ≠ a := by
        rintro rfl
        exact ha (by rw [accountOf, hk, Option.map_some])
      refine ⟨by rw [hs.get?_release_scopes hk, if_neg hne], fun g σ => ?_⟩
      rw [get?_release_guards]
      by_cases hg : k = g
      · subst hg
        rw [if_pos rfl, hk]
        refine ⟨nofun, fun heq => ?_⟩
        exact absurd (congrArg Guard.account (Option.some.inj heq)) hne
      · rw [if_neg hg]

/-- An event for one account aborts no signal that a guard of another one has had. -/
lemma Valid.isAborted_act_other (hs : s.Valid) (hs₀ : s₀.Valid) (hf : s₀.Follows s)
    (hg : s₀.guards.get? g = some ⟨a, σ⟩) (h : s.act x = some s') (ha : s.accountOf x ≠ some a) :
    s'.isAborted σ = s.isAborted σ := by
  rcases hf.isAborted_or hs₀ hg with haborted | ⟨e, he, rfl⟩
  · rw [haborted, (hs.act_follows h).aborted haborted]
  · by_contra hne
    have hlive := hs.live he
    have haborted : s'.isAborted e.signal = true := by
      rw [hlive] at hne
      exact Bool.eq_true_of_not_eq_false hne
    obtain ⟨k, b, rfl, hk, -⟩ := (hs.aborts_iff h e.signal).mp ⟨hlive, haborted⟩
    obtain ⟨e', he', hsig⟩ := hs.scope_of_guard hk
    obtain rfl := hs.apart he he' hsig.symm
    exact ha (by rw [accountOf, hk, Option.map_some])

/-- The guard that is taken next has a signal that is alive. If its account has no other guards, no guard
has had that signal before. -/
lemma Valid.acquire_signal (hs : s.Valid) (a : Account) :
    ∃ τ, (s.acquire a).2.guards.get? (s.acquire a).1 = some ⟨a, τ⟩ ∧
      (s.acquire a).2.isAborted τ = false ∧
      (s.guardsOf a = ∅ → ∀ (s₀ : Scopes) g b, s₀.Valid → s₀.Follows s →
        s₀.guards.get? g ≠ some ⟨b, τ⟩) := by
  have hnext : (s.acquire a).1 = s.nextGuard := rfl
  refine ⟨(s.joined a).signal, hnext ▸ get?_acquire_nextGuard a, hs.isAborted_joined,
    fun hnone s₀ g b hs₀ hf hg => ?_⟩
  -- such a guard would make the signal that of a scope, and this is the account's own
  rcases hf.isAborted_or hs₀ hg with haborted | ⟨e, he, hsig⟩
  · rw [hs.isAborted_joined] at haborted
    cases haborted
  · obtain rfl := hs.joined_apart he hsig
    have hsome := (hs.isSome_iff a).mp (by rw [he]; rfl)
    rw [hnone] at hsome
    exact Finset.not_nonempty_empty hsome

/-! ### Runs -/

/-- After every run the scopes are what those guards make them that were taken in it and not taken back.
A signal that guards have had at some time is aborted as soon as none of them is alive, which happens when
the last one is taken back and stays so for ever. The next guard gets a signal that is alive, and one that
none has had before if its account has no guards. What happens to one account does not concern the
others. -/
theorem scopes_follow_their_guards (h₀ : Scopes.empty.run xs = some s₀) (h : s₀.run ys = some s) :
    s.OwnedBy (heldBy (xs ++ ys)) ∧
    (∀ σ, s₀.isAborted σ = true → s.isAborted σ = true) ∧
    (∀ g a σ, s₀.guards.get? g = some ⟨a, σ⟩ →
      (s.isAborted σ = true ↔ ∀ k b, s.guards.get? k ≠ some ⟨b, σ⟩)) ∧
    (∀ a, ∃ τ, (s.acquire a).2.guards.get? (s.acquire a).1 = some ⟨a, τ⟩ ∧
      (s.acquire a).2.isAborted τ = false ∧
      (heldBy (xs ++ ys) a = ∅ → ∀ g b, s₀.guards.get? g ≠ some ⟨b, τ⟩)) ∧
    ∀ x s', s.act x = some s' →
      (∀ σ, s.isAborted σ = false ∧ s'.isAborted σ = true ↔
        ∃ k b, x = .release k ∧ s.guards.get? k = some ⟨b, σ⟩ ∧
          ∀ j c, s.guards.get? j = some ⟨c, σ⟩ → j = k) ∧
      ∀ a, s.accountOf x ≠ some a →
        s'.holders a = s.holders a ∧ s'.scopes.get? a = s.scopes.get? a ∧
        (∀ g σ, s'.guards.get? g = some ⟨a, σ⟩ ↔ s.guards.get? g = some ⟨a, σ⟩) ∧
        ∀ g σ, s₀.guards.get? g = some ⟨a, σ⟩ → s'.isAborted σ = s.isAborted σ := by
  have ht₀ : Tallies xs s₀ := Tallies.nil.run h₀
  have ht : Tallies (xs ++ ys) s := ht₀.run h
  have hf : s₀.Follows s := ht₀.run_follows h
  refine ⟨ht.ownedBy, fun σ hσ => hf.aborted hσ,
    fun g a σ hg => ht.valid.isAborted_iff_of_follows ht₀.valid hf hg, fun a => ?_,
    fun x s' hact => ⟨fun σ => ht.valid.aborts_iff hact σ, fun a ha => ?_⟩⟩
  · obtain ⟨τ, hguard, hlive, hnew⟩ := ht.valid.acquire_signal a
    rw [ht.guardsOf_eq] at hnew
    exact ⟨τ, hguard, hlive, fun hnone g b => hnew hnone s₀ g b ht₀.valid hf⟩
  · obtain ⟨hscope, hguards⟩ := ht.valid.act_other hact ha
    exact ⟨holders_congr hscope, hscope, hguards,
      fun g σ hg => ht.valid.isAborted_act_other ht₀.valid hf hg hact ha⟩

/-- Two guards of one account go, a third comes back to a new scope; another account is there all along. -/
theorem scopes_follow_their_guards_of_remount :
    ∃ s₀ s, Scopes.empty.run [.acquire ⟨.replicate 1⟩, .acquire ⟨.replicate 2⟩,
        .acquire ⟨.replicate 1⟩, .release 0] = some s₀ ∧
      s₀.run [.release 2, .acquire ⟨.replicate 1⟩] = some s ∧
      s₀.guards.get? 2 = some ⟨⟨.replicate 1⟩, 0⟩ ∧ s₀.isAborted 0 = false ∧
      s.guards.get? 3 = some ⟨⟨.replicate 1⟩, 2⟩ ∧ s.isAborted 0 = true ∧
      s.OwnedBy (heldBy [.acquire ⟨.replicate 1⟩, .acquire ⟨.replicate 2⟩,
        .acquire ⟨.replicate 1⟩, .release 0, .release 2, .acquire ⟨.replicate 1⟩]) :=
  ⟨_, _, rfl, rfl, by decide, by decide, by decide, by decide,
    (@scopes_follow_their_guards _ _ [.acquire ⟨.replicate 1⟩, .acquire ⟨.replicate 2⟩,
      .acquire ⟨.replicate 1⟩, .release 0] [.release 2, .acquire ⟨.replicate 1⟩] rfl rfl).1⟩

end Scopes

end ChainElection
