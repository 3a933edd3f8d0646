import Mathlib.Tactic
import ChainElection.Proofs.Monitor.Steps
import ChainElection.Proofs.Submission.Keeping

/-!
The stored lists in the course of a run.

* `Tracker.Written` is what one event may do to a list: `add` puts a fresh
  submission behind the others, a step of a monitor takes the monitor's
  submission one legal step further.
* `Tracker.Saves` is what one event may do to the store and to the updates:
  nothing, or one write and the update that announces it. `act_saves`: there is
  nothing else; `act_contents` is what this means for the lists.
* `SubmissionStore.Precedes`: the lists of the second store are those of the
  first at a later time. `run_precedes` carries it over a run, and
  `run_distinct` that hashes stay distinct.
* `stored_lists_only_grow` puts all of this together.
-/

namespace ChainElection

/-! ### Stores at a later time -/

namespace SubmissionStore

/-- In no account's list does a hash occur twice. -/
def AllDistinct (st : SubmissionStore) : Prop :=
  ∀ a ss, st.contents a = .ok ss → Submission.Distinct ss

lemma allDistinct_ofLists : ofLists.AllDistinct := by
  rintro a ss ⟨⟩
  exact List.nodup_nil

/-- The lists of the second store are those of the first at a later time. What is no list at all stays
as it is. -/
structure Precedes (st st' : SubmissionStore) : Prop where
  grows : ∀ {a ss}, st.contents a = .ok ss → ∃ ss', st'.contents a = .ok ss' ∧ Submission.Grows ss ss'
  unreadable : ∀ {a e}, st.contents a = .error e → st'.contents a = .error e

lemma Precedes.refl (st : SubmissionStore) : st.Precedes st :=
  ⟨fun h => ⟨_, h, .refl _⟩, fun h => h⟩

lemma Precedes.trans {st st' st'' : SubmissionStore} (h : st.Precedes st')
    (h' : st'.Precedes st'') : st.Precedes st'' := by
  refine ⟨fun {a ss} hss => ?_, fun he => h'.unreadable (h.unreadable he)⟩
  obtain ⟨ss', hss', hgrows⟩ := h.grows hss
  obtain ⟨ss'', hss'', hgrows'⟩ := h'.grows hss'
  exact ⟨ss'', hss'', hgrows.trans hgrows'⟩

end SubmissionStore

namespace Tracker

open Submission

variable {t t' : Tracker} {x : TrackerAction}

/-! ### One event -/

/-- What an event may write: `add` a fresh submission, a monitor's step one legal step of the monitor's
submission. -/
inductive Written (t : Tracker) : TrackerAction → List Submission → List Submission → Prop where
  | added {g : ℕ} {h : TransactionHash} {now : ClockTime} {ss : List Submission}
      (hnew : h ∉ hashes ss) : Written t (.add g h now) ss (ss ++ [fresh h now])
  | moved {id : ℕ} {event : MonitorEvent} {m : Monitor} {pre post : List Submission}
      {s : Submission} {next : SubmissionStatus} (hm : t.monitors.get? id = some m)
      (hash : s.hash = m.hash) (hfirst : s.hash ∉ hashes pre)
      (hlegal : s.status.canBecome next = true) :
      Written t (.step id event) (pre ++ s :: post) (pre ++ { s with status := next } :: post)

lemma Written.changes {ss ss' : List Submission} (h : Written t x ss ss') : Changes ss ss' := by
  cases h with
  | added hnew => exact .added _ hnew
  | moved _ _ hfirst hlegal => exact .moved hfirst hlegal

/-- What is pending after a write was pending before, or it was added. -/
lemma Written.pending {ss ss' : List Submission} (hw : Written t x ss ss') {h : TransactionHash}
    (hh : h ∈ pending ss') : h ∈ pending ss ∨ ∃ g now, x = .add g h now := by
  cases hw with
  | added _ => exact (mem_pending_added hh).imp_right fun heq => ⟨_, _, by rw [heq]⟩
  | moved _ _ _ hlegal => exact .inl (mem_pending_moved hlegal hh)

/-- A monitor writes to the list of its own account only. -/
lemma Writes.contents {m : Monitor} (h : Writes t m t') (a : Account) :
    t'.store.contents a = t.store.contents a ∨
      m.account = a ∧ ∃ ss ss' next, t.store.contents a = .ok ss ∧
        moveFirst m.hash next ss = some (.ok ss') ∧ t'.store.contents a = .ok ss' := by
  cases h with
  | nothing => exact .inl rfl
  | @step ss ss' next store hload hmove hsave =>
      have hsaved := (moveFirst_changes hmove).contents_save hload hsave a
      by_cases hab : m.account = a
      · rw [if_pos hab] at hsaved
        exact .inr ⟨hab, ss, ss', next, hab ▸ SubmissionStore.contents_of_load hload, hmove, hsaved⟩
      · rw [if_neg hab] at hsaved
        exact .inl hsaved

lemma Writes.distinct {m : Monitor} (h : Writes t m t') (hd : t.store.AllDistinct) :
    t'.store.AllDistinct := by
  intro a ss hss
  rcases h.contents a with heq | ⟨-, ss₀, ss', next, hss₀, hmove, hss'⟩
  · exact hd a ss (heq ▸ hss)
  · rw [hss', Except.ok.injEq] at hss
    exact hss ▸ (moveFirst_changes hmove).distinct (hd a ss₀ hss₀)

/-- Adding a submission that is stored already leaves all lists as they are. -/
lemma add_contents_of_mem {g : ℕ} {guard : Guard} {h : TransactionHash} {now : ClockTime}
    {ss : List Submission} (hact : t.act (.add g h now) = some t')
    (hg : t.scopes.guards.get? g = some guard) (hss : t.store.contents guard.account = .ok ss)
    (hmem : h ∈ hashes ss) : t'.store = t.store := by
  simp only [act, hg, Option.map_some, Option.some.injEq] at hact
  subst hact
  rcases add_cases t guard h now with heq | ⟨t₁, hr, heq⟩ <;> rw [heq]
  · rw [(start_starts t₁ _ _ _).store]
    rcases record_cases hr with ⟨-, -, -, rfl⟩ | ⟨ss', store, hload, hnew, -, -⟩
    · rfl
    · rw [SubmissionStore.contents_of_load hload, Except.ok.injEq] at hss
      exact absurd (hss ▸ hmem) hnew

/-- Where `add` succeeds, a submission that was not stored stands behind the others, as committed. -/
lemma add_contents_of_notMem {guard : Guard} {h : TransactionHash} {now : ClockTime}
    {started : Option ℕ} {ss : List Submission} (hadd : t.add guard h now = .ok (started, t'))
    (hss : t.store.contents guard.account = .ok ss) (hnew : h ∉ hashes ss) :
    t'.store.contents guard.account = .ok (ss ++ [fresh h now]) := by
  rw [add] at hadd
  split at hadd
  · cases hadd
  · rename_i t₁ hr
    have ht' : t' = (t₁.start guard.account h guard.signal).2 :=
      (congrArg Prod.snd (Except.ok.inj hadd)).symm
    rw [ht', (start_starts t₁ _ _ _).store]
    rcases record_cases hr with ⟨ss', hload, hmem, -⟩ | ⟨ss', store, hload, -, hsave, rfl⟩
    · rw [SubmissionStore.contents_of_load hload, Except.ok.injEq] at hss
      exact absurd (hss ▸ hmem) hnew
    · rw [SubmissionStore.contents_of_load hload, Except.ok.injEq] at hss
      subst hss
      rw [(Changes.added now hnew).contents_save hload hsave, if_pos rfl]

/-- What an event may do to the store and to the updates: nothing, other errors are set, or a list is
loaded, written and saved, and an update announces what the write shows. -/
inductive Saves (t : Tracker) (x : TrackerAction) : SubmissionStore → List StatusUpdate → Prop where
  | nothing : Saves t x t.store t.updates
  | upset {load save reload : Option ClientError} (hx : x = .upset load save reload) :
      Saves t x (t.store.upset load save reload) t.updates
  | saved {u : StatusUpdate} {ss ss' : List Submission} {store : SubmissionStore}
      (haccount : t.accountOf x = some u.account) (hload : t.store.load u.account = .ok ss)
      (hwritten : Written t x ss ss') (hsave : t.store.save u.account ss' = .ok store)
      (hshows : Shows ss ss' u.hash u.status) : Saves t x store (t.updates ++ [u])

lemma Writes.saves {id : ℕ} {event : MonitorEvent} {m : Monitor} (hm : t.monitors.get? id = some m)
    (h : Writes t m t') : Saves t (.step id event) t'.store t'.updates := by
  cases h with
  | nothing => exact .nothing
  | @step ss ss' next store hload hmove hsave =>
      have haccount : t.accountOf (.step id event) = some m.account := by
        rw [accountOf, hm, Option.map_some]
      obtain ⟨pre, s, post, rfl, hash, hpre, hlegal, rfl⟩ := moveFirst_cases hmove
      rw [← hash] at hpre ⊢
      exact .saved haccount hload (.moved hm hash hpre hlegal) hsave (shows_moved hpre hlegal)

/-- There is nothing else that an event does to the store and to the updates. -/
theorem act_saves (h : t.act x = some t') : Saves t x t'.store t'.updates := by
  cases x with
  | acquire b =>
      cases h
      exact .nothing
  | release g =>
      obtain ⟨guard, -, rfl⟩ := Option.map_eq_some_iff.mp h
      exact .nothing
  | init g =>
      obtain ⟨guard, -, rfl⟩ := Option.map_eq_some_iff.mp h
      rcases init_cases t guard with heq | ⟨ss, -, heq⟩ <;> rw [heq]
      · exact .nothing
      · have hstarts := startAll_starts guard.account guard.signal (pending ss) t
        rw [hstarts.store, hstarts.updates]
        exact .nothing
  | add g hash now =>
      obtain ⟨guard, hg, rfl⟩ := Option.map_eq_some_iff.mp h
      rcases add_cases t guard hash now with heq | ⟨t₁, hr, heq⟩ <;> rw [heq]
      · exact .nothing
      · have hstarts := start_starts t₁ guard.account hash guard.signal
        rw [hstarts.store, hstarts.updates]
        rcases record_cases hr with ⟨-, -, -, rfl⟩ | ⟨ss, store, hload, hnew, hsave, rfl⟩
        · exact .nothing
        · have haccount : t.accountOf (.add g hash now) = some guard.account := by
            rw [accountOf, hg, Option.map_some]
          exact .saved haccount hload (.added hnew) hsave (shows_added now hnew)
  | step id event =>
      obtain ⟨m, t₁, m', hm, hturn, rfl⟩ := step_cases h
      have hsaves : Saves t (.step id event) t₁.store t₁.updates := hturn.writes.saves hm
      exact hsaves
  | kill id =>
      obtain ⟨m, -, -, rfl⟩ := kill_cases h
      exact .nothing
  | upset load save reload =>
      cases h
      exact .upset rfl

/-- Nothing but `add` and the steps of monitors changes a list, and these only that of their own
account, by one write. -/
theorem act_contents (h : t.act x = some t') (a : Account) :
    t'.store.contents a = t.store.contents a ∨
      t.accountOf x = some a ∧ ∃ ss ss', t.store.contents a = .ok ss ∧
        t'.store.contents a = .ok ss' ∧ Written t x ss ss' := by
  have hsaves := act_saves h
  generalize t'.store = store, t'.updates = updates at hsaves
  cases hsaves with
  | nothing => exact .inl rfl
  | upset _ => exact .inl (t.store.contents_upset _ _ _ a)
  | @saved u ss ss' _ haccount hload hwritten hsave _ =>
      have hsaved := hwritten.changes.contents_save hload hsave a
      by_cases hab : u.account = a
      · subst hab
        rw [if_pos rfl] at hsaved
        exact .inr ⟨haccount, ss, ss', SubmissionStore.contents_of_load hload, hsaved, hwritten⟩
      · rw [if_neg hab] at hsaved
        exact .inl hsaved

/-- After an event the lists are those of before at a later time. -/
lemma act_precedes (h : t.act x = some t') : t.store.Precedes t'.store := by
  refine ⟨fun {a ss} hss => ?_, fun {a e} he => ?_⟩
  · rcases act_contents h a with heq | ⟨-, ss₀, ss', hss₀, hss', hw⟩
    · exact ⟨ss, heq.trans hss, .refl ss⟩
    · rw [hss, Except.ok.injEq] at hss₀
      exact ⟨ss', hss', hss₀ ▸ hw.changes.grows⟩
  · rcases act_contents h a with heq | ⟨-, ss₀, -, hss₀, -⟩
    · exact heq.trans he
    · rw [he] at hss₀
      cases hss₀

/-- An event keeps the hashes of every list distinct. -/
lemma act_distinct (h : t.act x = some t') (hd : t.store.AllDistinct) : t'.store.AllDistinct := by
  intro a ss' hss'
  rcases act_contents h a with heq | ⟨-, ss, ss₁, hss, hss₁, hw⟩
  · exact hd a ss' (heq ▸ hss')
  · rw [hss', Except.ok.injEq] at hss₁
    exact hss₁ ▸ hw.changes.distinct (hd a ss hss)

/-! ### Runs -/

lemma run_precedes {xs : List TrackerAction} (h : t.run xs = some t') :
    t.store.Precedes t'.store :=
  run_induction (P := fun u => t.store.Precedes u.store)
    (fun _ hact hP => hP.trans (act_precedes hact)) h (.refl t.store)

lemma run_distinct {xs : List TrackerAction} (h : t.run xs = some t') (hd : t.store.AllDistinct) :
    t'.store.AllDistinct :=
  run_induction (P := fun u => u.store.AllDistinct) (fun _ => act_distinct) h hd

/-- From any moment of a run to any later one, the stored lists only grow: every entry keeps its place,
its hash and its time, and its status follows legal steps, so that it stays what it is at the end of the
way; hashes stay distinct, and what is no list stays as it is. One more event changes at most the list of
the account that it is for, by a fresh submission behind the others or by one legal step; nothing is
written to add what is stored already, and what is new stands at the end once `add` has succeeded. -/
theorem stored_lists_only_grow {settings : TrackerSettings} {store : SubmissionStore}
    {xs ys : List TrackerAction} {t₁ t₂ : Tracker} (hstore : store.AllDistinct)
    (h₁ : (Tracker.empty settings store).run xs = some t₁) (h₂ : t₁.run ys = some t₂) :
    (∀ a ss, t₁.store.contents a = .ok ss → ∃ ss', t₂.store.contents a = .ok ss' ∧
      Distinct ss' ∧ Grows ss ss' ∧
      ∀ (i : ℕ) (s : Submission), ss[i]? = some s → s.status.isFinal = true → ss'[i]? = some s) ∧
    (∀ a e, t₁.store.contents a = .error e → t₂.store.contents a = .error e) ∧
    (∀ x t₃ a, t₂.act x = some t₃ → t₃.store.contents a = t₂.store.contents a ∨
      t₂.accountOf x = some a ∧ ∃ ss ss', t₂.store.contents a = .ok ss ∧
        t₃.store.contents a = .ok ss' ∧ Written t₂ x ss ss') ∧
    (∀ g guard h now t₃ ss, t₂.act (.add g h now) = some t₃ →
      t₂.scopes.guards.get? g = some guard → t₂.store.contents guard.account = .ok ss →
      h ∈ hashes ss → t₃.store = t₂.store) ∧
    ∀ guard h now started t₃ ss, t₂.add guard h now = .ok (started, t₃) →
      t₂.store.contents guard.account = .ok ss → h ∉ hashes ss →
      t₃.store.contents guard.account = .ok (ss ++ [fresh h now]) := by
  have hprecedes := run_precedes h₂
  have hdistinct := run_distinct h₂ (run_distinct h₁ hstore)
  refine ⟨fun a ss hss => ?_, fun a e he => hprecedes.unreadable he,
    fun x t₃ a hact => act_contents hact a,
    fun g guard h now t₃ ss hact hg hss hmem => add_contents_of_mem hact hg hss hmem,
    fun guard h now started t₃ ss hadd hss hnew => add_contents_of_notMem hadd hss hnew⟩
  obtain ⟨ss', hss', hgrows⟩ := hprecedes.grows hss
  refine ⟨ss', hss', hdistinct a ss' hss', hgrows, fun i s hs hfinal => ?_⟩
  obtain ⟨s', hs', hadv⟩ := hgrows i s hs
  rw [hs', hadv.eq_of_isFinal hfinal]

/-- A ballot is added while another one is approved. -/
theorem stored_lists_only_grow_of_two_ballots :
    ∃ t₁ t₂, (Tracker.empty ⟨10, none⟩ .ofLists).run
        [.acquire ⟨.replicate 1⟩, .add 0 ⟨.replicate 2⟩ .epoch, .step 0 .start] = some t₁ ∧
      t₁.run [.add 0 ⟨.replicate 3⟩ .epoch, .step 0 (.finalized (.ok .success))] = some t₂ ∧
      t₂.store.contents ⟨.replicate 1⟩ =
        .ok [⟨⟨.replicate 2⟩, .approved, .epoch⟩, ⟨⟨.replicate 3⟩, .committed, .epoch⟩] ∧
      ∃ ss', t₂.store.contents ⟨.replicate 1⟩ = .ok ss' ∧ Distinct ss' ∧
        Grows [⟨⟨.replicate 2⟩, .committed, .epoch⟩] ss' := by
  have hgrow := @stored_lists_only_grow ⟨10, none⟩ .ofLists
    [.acquire ⟨.replicate 1⟩, .add 0 ⟨.replicate 2⟩ .epoch, .step 0 .start]
    [.add 0 ⟨.replicate 3⟩ .epoch, .step 0 (.finalized (.ok .success))] _ _
    SubmissionStore.allDistinct_ofLists rfl rfl
  obtain ⟨ss', hss', hd, hgrows, -⟩ :=
    hgrow.1 ⟨.replicate 1⟩ [⟨⟨.replicate 2⟩, .committed, .epoch⟩] (by decide)
  exact ⟨_, _, rfl, rfl, by decide, ss', hss', hd, hgrows⟩

end Tracker

end ChainElection
