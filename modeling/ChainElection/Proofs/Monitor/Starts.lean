import Mathlib.Tactic
import ChainElection.Proofs.Monitor.Watch

/-!
Which monitors are started, and in which order.

* `Tracker.unclaimed` are the submissions of a list that nobody has claimed under
  a live signal, each where it stands first; `Sound.mem_unclaimed_iff` says that
  these are the ones that nobody watches.
* `Tracker.Began`: one monitor has been started for each submission of a list,
  numbered in its order, and none besides.
* `startAll_began`: starting the monitors of a list under a live signal starts
  those of its unclaimed submissions. `Sound.init_began` is what this means for
  the monitoring of an account.
-/

namespace ChainElection.Tracker

open Submission

variable {t t' : Tracker} {a : Account} {σ : ℕ} {h k : TransactionHash} {hs : List TransactionHash}

/-! ### Lists without repetition -/

/-- To go through a list without repetition is to take its head out of the rest and go on with that. -/
lemma eraseDups_induction {P : List TransactionHash → Prop} (nil : P [])
    (cons : ∀ h r, P (r.filter fun k => !k == h) → P (h :: r)) (hs : List TransactionHash) : P hs := by
  induction hn : hs.length using Nat.strong_induction_on generalizing hs with
  | _ n ih =>
      cases hs with
      | nil => exact nil
      | cons h r =>
          have hshorter : (r.filter fun k => !k == h).length < n := by
            rw [← hn, List.length_cons]
            exact Nat.lt_succ_of_le (List.length_filter_le ..)
          exact cons h r (ih _ hshorter _ rfl)

/-- What is left out does not matter for where the others stand first. -/
lemma eraseDups_filter (p : TransactionHash → Bool) (hs : List TransactionHash) :
    (hs.filter p).eraseDups = hs.eraseDups.filter p := by
  induction hs using eraseDups_induction with
  | nil => rfl
  | cons h r ih =>
      rw [List.eraseDups_cons, List.filter_cons, List.filter_cons, ← ih, List.filter_filter]
      split
      · rw [List.eraseDups_cons, List.filter_filter]
        simp only [Bool.and_comm]
      · -- a submission that is let through differs from the one that is left out
        rename_i hout
        congr 1
        refine List.filter_congr fun k _ => ?_
        cases hk : p k with
        | false => rfl
        | true =>
            have hne : k ≠ h := fun heq => hout (heq ▸ hk)
            simp [hne]

lemma nodup_eraseDups (hs : List TransactionHash) : hs.eraseDups.Nodup := by
  induction hs using eraseDups_induction with
  | nil => exact List.nodup_nil
  | cons h r ih =>
      rw [List.eraseDups_cons, List.nodup_cons]
      refine ⟨fun hmem => ?_, ih⟩
      have hne := List.of_mem_filter (List.mem_eraseDups.mp hmem)
      simp at hne

lemma eraseDups_sublist (hs : List TransactionHash) : hs.eraseDups.Sublist hs := by
  induction hs using eraseDups_induction with
  | nil => exact List.Sublist.refl []
  | cons h r ih =>
      rw [List.eraseDups_cons]
      exact (ih.trans List.filter_sublist).cons_cons h

/-! ### Unclaimed submissions -/

/-- The submissions of a list that nobody has claimed under a live signal, each where it stands first. -/
def unclaimed (t : Tracker) (a : Account) (hs : List TransactionHash) : List TransactionHash :=
  hs.eraseDups.filter fun h => t.isFree (a, h)

/-- A submission is free if nobody watches it. -/
lemma Sound.isFree_iff (ht : t.Sound) {key : Account × TransactionHash} :
    t.isFree key = true ↔ ∀ i m, t.Watches i m → m.key ≠ key := by
  rw [isFree_eq_true_iff]
  constructor
  · rintro hfree i m hm rfl
    have haborted := hfree _ (ht.claim_of_watches hm)
    rw [hm.live] at haborted
    cases haborted
  · intro hnone c hc
    obtain ⟨i, m, hm, hrunning, hkey, rfl⟩ := ht.owner hc
    by_contra hlive
    exact hnone i m ⟨hm, hrunning, Bool.eq_false_iff.mpr hlive⟩ hkey

lemma Sound.mem_unclaimed_iff (ht : t.Sound) :
    h ∈ t.unclaimed a hs ↔ h ∈ hs ∧ ∀ i m, t.Watches i m → m.key ≠ (a, h) := by
  rw [unclaimed, List.mem_filter, List.mem_eraseDups, ht.isFree_iff]

lemma nodup_unclaimed (t : Tracker) (a : Account) (hs : List TransactionHash) :
    (t.unclaimed a hs).Nodup := (nodup_eraseDups hs).filter _

/-- A submission is not free any more once its monitor was to be started under a live signal, and no
other one has changed. -/
lemma isFree_start (hσ : t.scopes.isAborted σ = false) (a : Account) (h k : TransactionHash) :
    (t.start a h σ).2.isFree (a, k) = (!k == h && t.isFree (a, k)) := by
  rcases start_cases t a h σ with ⟨-, hstart⟩ | ⟨hclaimed, hstart⟩ <;> rw [hstart]
  · rw [isFree, get?_started_claims]
    by_cases hk : h = k
    · subst hk
      simp [started, hσ]
    · simp [hk, Ne.symm hk, isFree, started]
  · by_cases hk : k = h
    · subst hk
      rw [beq_self_eq_true, Bool.not_true, Bool.false_and]
      exact hclaimed
    · simp [hk, isFree]

/-- Unclaimed submissions stand in the list in this order. -/
lemma unclaimed_sublist (t : Tracker) (a : Account) (hs : List TransactionHash) :
    (t.unclaimed a hs).Sublist hs := List.filter_sublist.trans (eraseDups_sublist hs)

lemma unclaimed_cons (t : Tracker) (a : Account) (h : TransactionHash) (r : List TransactionHash) :
    t.unclaimed a (h :: r) =
      (if t.isFree (a, h) then [h] else []) ++
        r.eraseDups.filter fun k => !k == h && t.isFree (a, k) := by
  rw [unclaimed, List.eraseDups_cons, List.filter_cons, eraseDups_filter, List.filter_filter]
  simp only [Bool.and_comm]
  split
  · rfl
  · rfl

/-- Once the first monitor of a list was to be started, those of the rest are left. -/
lemma unclaimed_start (hσ : t.scopes.isAborted σ = false) (a : Account) (h : TransactionHash)
    (r : List TransactionHash) :
    (t.start a h σ).2.unclaimed a r = r.eraseDups.filter fun k => !k == h && t.isFree (a, k) := by
  rw [unclaimed]
  simp only [isFree_start hσ]

/-! ### What is started -/

/-- One monitor has been started for each submission of a list, numbered in its order, and none besides. -/
structure Began (t : Tracker) (a : Account) (σ : ℕ) (hs : List TransactionHash) (ms : List ℕ)
    (t' : Tracker) : Prop where
  numbers : ms = List.range' t.nextMonitor hs.length
  next : t'.nextMonitor = t.nextMonitor + hs.length
  fresh : List.Forall₂ (fun i h => ∃ c, t'.monitors.get? i = some (.fresh a h σ c)) ms hs
  others : ∀ {i}, i ∉ ms → t'.monitors.get? i = t.monitors.get? i

/-- The first monitor of a list, and those of the rest. -/
lemma Began.cons {u : Tracker} {ms : List ℕ}
    (hu : u.nextMonitor = t.nextMonitor + 1)
    (hfirst : ∃ c, u.monitors.get? t.nextMonitor = some (.fresh a h σ c))
    (hothers : ∀ {i}, i ≠ t.nextMonitor → u.monitors.get? i = t.monitors.get? i)
    (hrest : u.Began a σ hs ms t') : t.Began a σ (h :: hs) (t.nextMonitor :: ms) t' where
  numbers := by rw [hrest.numbers, hu, List.length_cons, List.range'_succ]
  next := by rw [hrest.next, hu, List.length_cons]; ring
  fresh := by
    refine .cons ?_ hrest.fresh
    have hnot : t.nextMonitor ∉ ms := by
      rw [hrest.numbers, hu, List.mem_range'_1]
      omega
    rw [hrest.others hnot]
    exact hfirst
  others := by
    intro i hi
    obtain ⟨hne, hnot⟩ := List.ne_and_not_mem_of_not_mem_cons hi
    rw [hrest.others hnot, hothers hne]

/-- Nothing that concerns the monitors has happened before they are started. -/
lemma Began.of_eq {u : Tracker} {ms : List ℕ} (h : u.Began a σ hs ms t')
    (hnext : u.nextMonitor = t.nextMonitor) (hmonitors : u.monitors = t.monitors) :
    t.Began a σ hs ms t' :=
  ⟨hnext ▸ h.numbers, hnext ▸ h.next, h.fresh, fun hi => hmonitors ▸ h.others hi⟩

/-- Under a live signal, one monitor is started for each unclaimed submission of a list, in order. -/
theorem startAll_began (hσ : t.scopes.isAborted σ = false) (a : Account) (hs : List TransactionHash) :
    t.Began a σ (t.unclaimed a hs) (t.startAll a σ hs).1 (t.startAll a σ hs).2 := by
  induction hs generalizing t with
  | nil => exact ⟨rfl, rfl, .nil, fun _ => rfl⟩
  | cons h r ih =>
      have hσ' : (t.start a h σ).2.scopes.isAborted σ = false := by
        rwa [(start_starts t a h σ).scopes]
      have hrest := ih hσ'
      rw [unclaimed_start hσ] at hrest
      rw [unclaimed_cons, startAll]
      rcases start_cases t a h σ with ⟨hfree, hstart⟩ | ⟨hclaimed, hstart⟩ <;> rw [hstart] at hrest ⊢
      · rw [if_pos hfree]
        refine hrest.cons rfl ⟨t.nextClaim, ?_⟩ fun hi => ?_
        · rw [get?_started_monitors, if_pos rfl]
        · rw [get?_started_monitors, if_neg (Ne.symm hi)]
      · rw [if_neg (by simp [hclaimed])]
        exact hrest.of_eq rfl rfl

/-- Where the list of a guard's account is loaded, its monitoring is resumed: one monitor is started for
each of the pending submissions that nobody watches. -/
lemma Sound.init_began (ht : t.Sound) {g : ℕ} (hg : t.scopes.guards.get? g = some ⟨a, σ⟩)
    {ss : List Submission} (hload : t.store.load a = .ok ss) :
    ∃ ms t', t.init ⟨a, σ⟩ = .ok (ms, t') ∧ t.Began a σ (t.unclaimed a (pending ss)) ms t' := by
  have hcurrent : t.IsCurrent a σ := ht.scopes.scope_of_guard hg
  refine ⟨_, _, ?_, startAll_began (ht.live_of_isCurrent hcurrent) a (pending ss)⟩
  rw [Tracker.init, hload]

end ChainElection.Tracker
