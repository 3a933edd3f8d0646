import Mathlib.Tactic
import ChainElection.Proofs.Monitor.Starts

/-!
Resuming the monitoring of an account: who gets a monitor, and who does not.

Nothing is asked of the stored list: it may be as long as it likes, hashes may
occur in it more than once, and others may have written it.

* `Tracker.Evolves`: what a tracker can become if others write to its store too.
* `isFree_startAll`: once monitors are started for a list, none of it is free.
  So to resume the monitoring again starts nothing (`Sound.init_again`).
* `Sound.isFree_of_unguarded`: once the last guard of an account is gone, all its
  submissions are free, and whoever takes the next guard starts with all of them
  again (`Sound.init_anew`).
* `init_starts_unclaimed_submissions` puts all of this together.
-/

namespace ChainElection.Tracker

open Submission

variable {settings : TrackerSettings} {store : SubmissionStore} {t t' u : Tracker} {a b : Account}
  {g σ τ : ℕ} {h k : TransactionHash} {hs : List TransactionHash} {ss : List Submission}

/-! ### Trackers whose store others write to -/

/-- The second tracker is the first one after some events, and after what others have done to the store
in between. -/
def Evolves : Tracker → Tracker → Prop :=
  Relation.ReflTransGen fun u u' => (∃ x, u.act x = some u') ∨ ∃ st, u' = { u with store := st }

lemma Evolves.trans (h : t.Evolves t') (h' : t'.Evolves u) : t.Evolves u :=
  Relation.ReflTransGen.trans h h'

lemma Evolves.of_act {x : TrackerAction} (h : t.act x = some t') : t.Evolves t' :=
  Relation.ReflTransGen.single (.inl ⟨x, h⟩)

lemma evolves_written (t : Tracker) (st : SubmissionStore) : t.Evolves { t with store := st } :=
  Relation.ReflTransGen.single (.inr ⟨st, rfl⟩)

/-- Claims and monitors stay in order, whatever is stored. -/
lemma Evolves.sound (h : t.Evolves t') (ht : t.Sound) : t'.Sound := by
  induction h with
  | refl => exact ht
  | tail _ hstep ih =>
      rcases hstep with ⟨x, hact⟩ | ⟨st, rfl⟩
      · exact ih.act hact
      · exact ih.of_eq rfl rfl rfl rfl rfl

/-! ### Once more -/

/-- What is free once the monitors of a list were to be started: what was free before and does not stand
in the list. -/
lemma isFree_startAll (hσ : t.scopes.isAborted σ = false) (a : Account) (hs : List TransactionHash)
    (k : TransactionHash) :
    (t.startAll a σ hs).2.isFree (a, k) = (!hs.contains k && t.isFree (a, k)) := by
  induction hs generalizing t with
  | nil => rw [startAll, List.contains_nil, Bool.not_false, Bool.true_and]
  | cons h r ih =>
      have hσ' : (t.start a h σ).2.scopes.isAborted σ = false := by
        rwa [(start_starts t a h σ).scopes]
      have hrest : (t.startAll a σ (h :: r)).2 = ((t.start a h σ).2.startAll a σ r).2 := rfl
      rw [hrest, ih hσ', isFree_start hσ, List.contains_cons, Bool.not_or, ← Bool.and_assoc]
      congr 1
      exact Bool.and_comm _ _

/-- Nobody is left without a monitor once those of a list were to be started. -/
lemma unclaimed_startAll (hσ : t.scopes.isAborted σ = false) (a : Account) (hs : List TransactionHash) :
    (t.startAll a σ hs).2.unclaimed a hs = [] := by
  rw [unclaimed, List.filter_eq_nil_iff]
  intro k hk
  have hmem : hs.contains k = true := List.contains_iff_mem.mpr (List.mem_eraseDups.mp hk)
  rw [isFree_startAll hσ, hmem]
  exact Bool.false_ne_true

/-- Who takes a guard takes no claim. -/
lemma unclaimed_acquire (t : Tracker) (a b : Account) (hs : List TransactionHash) :
    (t.acquire b).2.unclaimed a hs = t.unclaimed a hs := rfl

/-- Resuming the monitoring of an account once more starts nothing, whoever does it. -/
lemma Sound.init_again (ht : t.Sound) (hg : t.scopes.guards.get? g = some ⟨a, σ⟩)
    (hload : t.store.load a = .ok ss) (hnone : t.unclaimed a (pending ss) = []) :
    ∃ t', t.init ⟨a, σ⟩ = .ok ([], t') ∧ ∀ i, t'.monitors.get? i = t.monitors.get? i := by
  obtain ⟨ms, t', hinit, hbegan⟩ := ht.init_began hg hload
  rw [hnone] at hbegan
  obtain rfl : ms = [] := hbegan.numbers
  exact ⟨t', hinit, fun i => hbegan.others List.not_mem_nil⟩

/-! ### All over again -/

/-- Once the last guard of an account is gone, all its submissions are free. -/
lemma Sound.isFree_of_unguarded (ht : t.Sound) (hnone : t.scopes.guardsOf a = ∅)
    (h : TransactionHash) : t.isFree (a, h) = true := by
  rw [ht.isFree_iff]
  intro i m hm hkey
  have haccount : m.account = a := congrArg Prod.fst hkey
  have haborted := ht.isAborted_of_unguarded hm.found (haccount ▸ hnone)
  rw [hm.live] at haborted
  cases haborted

/-- Who takes the first guard of an account starts with all of its pending submissions, whatever has
become of the monitors that were there before. -/
lemma Sound.init_anew (ht : t.Sound) (hnone : t.scopes.guardsOf a = ∅)
    (hload : t.store.load a = .ok ss) :
    ∃ τ ms t', (t.acquire a).2.scopes.guards.get? (t.acquire a).1 = some ⟨a, τ⟩ ∧
      (t.acquire a).2.init ⟨a, τ⟩ = .ok (ms, t') ∧
      (t.acquire a).2.Began a τ (pending ss).eraseDups ms t' := by
  obtain ⟨τ, hg⟩ : ∃ τ, (t.acquire a).2.scopes.guards.get? (t.acquire a).1 = some ⟨a, τ⟩ :=
    ⟨_, Table.get?_set_self ..⟩
  have hload' : (t.acquire a).2.store.load a = .ok ss := hload
  obtain ⟨ms, t', hinit, hbegan⟩ := (ht.acquire a).init_began hg hload'
  have hall : t.unclaimed a (pending ss) = (pending ss).eraseDups :=
    List.filter_eq_self.mpr fun h _ => ht.isFree_of_unguarded hnone h
  rw [unclaimed_acquire, hall] at hbegan
  exact ⟨τ, ms, t', hg, hinit, hbegan⟩

/-! ### Resuming -/

/-- A hash is pending if one of its entries is. -/
lemma mem_pending : k ∈ pending ss ↔ ∃ s ∈ ss, s.hash = k ∧ s.status.isFinal = false := by
  simp only [pending, List.mem_map, List.mem_filter, Bool.not_eq_true']
  constructor
  · rintro ⟨s, ⟨hs, hfinal⟩, hhash⟩
    exact ⟨s, hs, hhash, hfinal⟩
  · rintro ⟨s, hs, hhash, hfinal⟩
    exact ⟨s, ⟨hs, hfinal⟩, hhash⟩

/-- Those who only take guards leave the stored lists and the claims alone. -/
lemma unclaimed_of_acquires {bs : List Account} (hrun : t.run (bs.map .acquire) = some u) :
    u.store = t.store ∧ ∀ a hs, u.unclaimed a hs = t.unclaimed a hs := by
  refine run_induction (P := fun v => v.store = t.store ∧ ∀ a hs, v.unclaimed a hs = t.unclaimed a hs)
    (fun {v v' x} hx hact hv => ?_) hrun ⟨rfl, fun _ _ => rfl⟩
  obtain ⟨b, -, rfl⟩ := List.mem_map.mp hx
  cases hact
  exact ⟨hv.1, fun a hs => (unclaimed_acquire v a b hs).trans (hv.2 a hs)⟩

/-- Resuming the monitoring of an account under a guard that is alive starts one monitor for each of its
pending submissions that nobody has claimed under a live signal, in the order in which they first stand in
the list, and none for any other; so it starts as many as there are of them. If this is done once more
right away, by the same holder or by another one, nothing is started. And once the last guard of the
account is gone, whoever takes the next one starts with all pending submissions again, each of them once,
whether or not the monitors that were there before have ended. -/
theorem init_starts_unclaimed_submissions (h : (Tracker.empty settings store).Evolves t)
    (hg : t.scopes.guards.get? g = some ⟨a, σ⟩) (hload : t.store.load a = .ok ss) :
    ∃ ms t', t.init ⟨a, σ⟩ = .ok (ms, t') ∧ t.Began a σ (t.unclaimed a (pending ss)) ms t' ∧
      (t.unclaimed a (pending ss)).Sublist (pending ss) ∧ (t.unclaimed a (pending ss)).Nodup ∧
      (∀ k, k ∈ t.unclaimed a (pending ss) ↔ (∃ s ∈ ss, s.hash = k ∧ s.status.isFinal = false) ∧
        ∀ c, t.claims.get? (a, k) = some c → t.scopes.isAborted c.signal = true) ∧
      (∀ hs : Finset TransactionHash, (∀ k, k ∈ hs ↔ k ∈ t.unclaimed a (pending ss)) →
        ms.length = hs.card) ∧
      (∀ (bs : List Account) u g' τ, t'.run (bs.map .acquire) = some u → u.scopes.guards.get? g' = some ⟨a, τ⟩ →
        ∃ u', u.init ⟨a, τ⟩ = .ok ([], u') ∧ ∀ i, u'.monitors.get? i = u.monitors.get? i) ∧
      ∀ u ss', t'.Evolves u → u.scopes.guardsOf a = ∅ → u.store.load a = .ok ss' →
        ∃ τ ms' u', (u.acquire a).2.scopes.guards.get? (u.acquire a).1 = some ⟨a, τ⟩ ∧
          (u.acquire a).2.init ⟨a, τ⟩ = .ok (ms', u') ∧
          (u.acquire a).2.Began a τ (pending ss').eraseDups ms' u' := by
  have ht : t.Sound := h.sound (.empty settings store)
  obtain ⟨ms, t', hinit, hbegan⟩ := ht.init_began hg hload
  have hact : t.act (.init g) = some t' := act_init hg hinit
  have ht' : t'.Sound := ht.act hact
  have hlive := ht.live_of_isCurrent (ht.scopes.scope_of_guard hg)
  refine ⟨ms, t', hinit, hbegan, unclaimed_sublist t a _, nodup_unclaimed t a _, fun k => ?_,
    fun hs hmem => ?_, fun bs u g' τ hrun hg' => ?_, fun u ss' hu hnone hload' => ?_⟩
  · rw [unclaimed, List.mem_filter, List.mem_eraseDups, isFree_eq_true_iff]
    exact and_congr_left' mem_pending
  · have hset : hs = (t.unclaimed a (pending ss)).toFinset := by
      ext k
      rw [hmem, List.mem_toFinset]
    rw [hset, List.toFinset_card_of_nodup (nodup_unclaimed t a _), hbegan.numbers, List.length_range']
  · obtain ⟨hstore, hunclaimed⟩ := unclaimed_of_acquires hrun
    obtain ⟨ss₀, hload₀, hstart⟩ := init_eq_ok hinit
    obtain rfl : ss = ss₀ := Except.ok.inj (hload.symm.trans hload₀)
    obtain rfl : (t.startAll a σ (pending ss)).2 = t' := congrArg Prod.snd hstart
    have hload' : u.store.load a = .ok ss := by rw [hstore, (startAll_starts a σ _ t).store, hload]
    have hnone : u.unclaimed a (pending ss) = [] := by rw [hunclaimed, unclaimed_startAll hlive]
    exact (run_sound hrun ht').init_again hg' hload' hnone
  · exact (hu.sound ht').init_anew hnone hload'

/-- Someone else has stored a list in which one hash is pending twice, and another one has come to its
end. Two monitors are started, none when another holder joins, and two again once both have left. -/
theorem init_starts_unclaimed_submissions_of_written_list :
    ∃ t t' u v, (Tracker.empty ⟨10, none⟩ .ofLists).Evolves t ∧
      t.store.load ⟨.replicate 1⟩ = .ok [⟨⟨.replicate 4⟩, .approved, .epoch⟩,
        ⟨⟨.replicate 2⟩, .committed, .epoch⟩, ⟨⟨.replicate 3⟩, .verified, .epoch⟩,
        ⟨⟨.replicate 2⟩, .approved, .epoch⟩] ∧
      t.init ⟨⟨.replicate 1⟩, 0⟩ = .ok ([0, 1], t') ∧
      (t'.monitors.get? 0).map Monitor.hash = some ⟨.replicate 4⟩ ∧
      (t'.monitors.get? 1).map Monitor.hash = some ⟨.replicate 2⟩ ∧
      t'.run [.acquire ⟨.replicate 1⟩] = some u ∧ (∃ u', u.init ⟨⟨.replicate 1⟩, 0⟩ = .ok ([], u')) ∧
      u.run [.release 0, .release 1] = some v ∧
      ∃ τ ms v', (v.acquire ⟨.replicate 1⟩).2.init ⟨⟨.replicate 1⟩, τ⟩ = .ok (ms, v') ∧
        ms.length = 2 := by
  have hevolves : (Tracker.empty ⟨10, none⟩ .ofLists).Evolves
      { ((Tracker.empty ⟨10, none⟩ .ofLists).acquire ⟨.replicate 1⟩).2 with
        store := ⟨.lists ⟨[(⟨.replicate 1⟩, [⟨⟨.replicate 4⟩, .approved, .epoch⟩,
          ⟨⟨.replicate 2⟩, .committed, .epoch⟩, ⟨⟨.replicate 3⟩, .verified, .epoch⟩,
          ⟨⟨.replicate 2⟩, .approved, .epoch⟩])]⟩, none, none, none⟩ } :=
    (Evolves.of_act (x := .acquire ⟨.replicate 1⟩) rfl).trans (evolves_written _ _)
  obtain ⟨ms, t', hinit, -, -, -, -, -, hagain, hanew⟩ :=
    @init_starts_unclaimed_submissions _ _ _ _ 0 0 _ hevolves rfl rfl
  obtain ⟨rfl, rfl⟩ : [0, 1] = ms ∧ _ = t' := Prod.mk.inj (Except.ok.inj hinit)
  obtain ⟨u', hu', -⟩ := hagain [⟨.replicate 1⟩] _ 0 0 rfl rfl
  obtain ⟨τ, ms, v', -, hinit', hbegan⟩ := hanew
    _ _ ((Evolves.of_act (x := .acquire ⟨.replicate 1⟩) rfl).trans
      ((Evolves.of_act (x := .release 0) rfl).trans (.of_act (x := .release 1) rfl))) (by decide) rfl
  refine ⟨_, _, _, _, hevolves, rfl, rfl, by decide, by decide, rfl, ⟨u', hu'⟩, rfl, τ, ms, v', hinit', ?_⟩
  rw [hbegan.numbers, List.length_range']
  decide

end ChainElection.Tracker
