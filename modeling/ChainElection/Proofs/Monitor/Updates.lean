import Mathlib.Tactic
import ChainElection.Proofs.Monitor.Lists

/-!
Updates: what the listeners of a tracker are told about the store.

A list is written in one step and the update about it is sent in the same one,
whoever writes. So the updates are a log of the store: those about one
submission tell all the statuses that it has had since the tracker was made, in
order, and nothing else.

* `announced` picks out what the updates say about one submission, and
  `SubmissionStore.statusOf` looks up how far it has come.
* `Logs` says that some statuses are the log of a submission. `Logs.append`: the
  next status goes on with the log if it is a legal step, or the first one.
* `Tracker.Announces` is what an event may do to the updates: nothing if no list
  changes, one update if one does. `act_announces`: there is nothing else.
* `Tracker.Logged` is the invariant; `Announces.logged` carries it over an event.
* `updates_log_the_store` puts all of this together.
-/

namespace ChainElection

open Submission

/-- What updates announce about a submission, in order. -/
def announced (us : List StatusUpdate) (k : Account × TransactionHash) : List SubmissionStatus :=
  (us.filter fun u => (u.account, u.hash) = k).map StatusUpdate.status

/-- How far a submission has come; nothing if it is not stored. -/
def SubmissionStore.statusOf (st : SubmissionStore) (k : Account × TransactionHash) :
    Option SubmissionStatus :=
  match st.contents k.1 with
  | .ok ss => statusIn ss k.2
  | .error _ => none

lemma SubmissionStore.statusOf_of_contents {st : SubmissionStore} {a : Account}
    {ss : List Submission} (hss : st.contents a = .ok ss) (h : TransactionHash) :
    st.statusOf (a, h) = statusIn ss h := by
  rw [statusOf, hss]

/-- The log of a submission, from a first status if it was stored, to a last one if it is stored: a path
of legal steps, which begins with a commitment if the submission was not stored. -/
structure Logs (first : Option SubmissionStatus) (log : List SubmissionStatus)
    (last : Option SubmissionStatus) : Prop where
  legal : List.IsChain (fun x y => x.canBecome y = true) (first.toList ++ log)
  opening : first = none → ∀ s ∈ log.head?, s = .committed
  current : last = (first.toList ++ log).getLast?

lemma Logs.nil (status : Option SubmissionStatus) : Logs status [] status where
  legal := by cases status <;> simp
  opening := fun _ _ hs => by cases hs
  current := by cases status <;> rfl

/-- A log goes on with a legal step, or begins with the first status. -/
lemma Logs.append {first last : Option SubmissionStatus} {log : List SubmissionStatus}
    (hlog : Logs first log last) {status : SubmissionStatus}
    (hnext : last = none ∧ status = .committed ∨ ∃ old, last = some old ∧ old.canBecome status = true) :
    Logs first (log ++ [status]) (some status) where
  legal := by
    rw [← List.append_assoc]
    refine List.isChain_append.mpr ⟨hlog.legal, List.isChain_singleton _, fun x hx y hy => ?_⟩
    rw [← hlog.current] at hx
    cases hy
    rcases hnext with ⟨hnone, -⟩ | ⟨old, hold, hlegal⟩
    · rw [hnone] at hx
      cases hx
    · rw [hold] at hx
      cases hx
      exact hlegal
  opening := by
    intro hfirst s hs
    cases log with
    | nil =>
        cases hs
        have hlast := hlog.current
        rw [hfirst] at hlast
        rcases hnext with ⟨-, hcommitted⟩ | ⟨old, hold, -⟩
        · exact hcommitted
        · rw [hold] at hlast
          cases hlast
    | cons s₀ log => exact hlog.opening hfirst s hs
  current := by rw [← List.append_assoc, List.getLast?_concat]

namespace Tracker

variable {t t' : Tracker} {x : TrackerAction} {k : Account × TransactionHash}

/-! ### One event -/

/-- What an event may do to the lists and the updates. If no list changes, nothing is sent. Otherwise one
list changes, that of the account that the event is for; one update is sent, and it shows the change. -/
inductive Announces (t : Tracker) (x : TrackerAction) (t' : Tracker) : Prop where
  | nothing (hcontents : ∀ a, t'.store.contents a = t.store.contents a)
      (hupdates : t'.updates = t.updates)
  | one {u : StatusUpdate} {ss ss' : List Submission} (haccount : t.accountOf x = some u.account)
      (hss : t.store.contents u.account = .ok ss) (hss' : t'.store.contents u.account = .ok ss')
      (hwritten : Written t x ss ss') (hshows : Shows ss ss' u.hash u.status)
      (hothers : ∀ a, u.account ≠ a → t'.store.contents a = t.store.contents a)
      (hupdates : t'.updates = t.updates ++ [u])

/-- There is nothing else that an event does to the lists and the updates. -/
theorem act_announces (h : t.act x = some t') : Announces t x t' := by
  have hsaves := act_saves h
  generalize hstore : t'.store = store, hus : t'.updates = updates at hsaves
  cases hsaves with
  | nothing => exact .nothing (fun a => by rw [hstore]) hus
  | upset _ => exact .nothing (fun a => by rw [hstore, SubmissionStore.contents_upset]) hus
  | @saved u ss ss' _ haccount hload hwritten hsave hshows =>
      have hsaved := hwritten.changes.contents_save hload hsave
      refine .one haccount (SubmissionStore.contents_of_load hload) ?_ hwritten hshows
        (fun a hne => ?_) hus
      · rw [hstore, hsaved, if_pos rfl]
      · rw [hstore, hsaved, if_neg hne]

/-- A store that does not load or save the list of the account that an event is for stays as it is, and
nothing is sent. -/
lemma act_silent {a : Account} (h : t.act x = some t') (haccount : t.accountOf x = some a)
    (hfails : (∃ e, t.store.load a = .error e) ∨ ∃ ss e, t.store.save a ss = .error e) :
    t'.updates = t.updates ∧ ∀ b, t'.store.contents b = t.store.contents b := by
  have hsaves := act_saves h
  generalize hstore : t'.store = store, hus : t'.updates = updates at hsaves
  cases hsaves with
  | nothing => exact ⟨rfl, fun _ => rfl⟩
  | upset _ => exact ⟨rfl, fun b => SubmissionStore.contents_upset ..⟩
  | @saved u ss ss' _ hown hload _ hsave _ =>
      obtain rfl : u.account = a := Option.some.inj (hown.symm.trans haccount)
      rcases hfails with ⟨e, hfail⟩ | ⟨ss₁, e, hfail⟩
      · rw [hload] at hfail
        cases hfail
      · have hfault := SubmissionStore.save_eq_error_iff.mp hfail
        rw [(SubmissionStore.save_eq_ok_iff.mp hsave).1] at hfault
        cases hfault

/-- A submission that is not added is neither stored nor announced. -/
lemma act_of_add_failed {g : ℕ} {guard : Guard} {h : TransactionHash} {now : ClockTime} {e : ClientError}
    (hg : t.scopes.guards.get? g = some guard) (hadd : t.add guard h now = .error e) :
    t.act (.add g h now) = some t := by
  rw [act, hg, Option.map_some, hadd, orElse]

/-! ### Runs -/

/-- The updates about every submission are its log since the tracker was made. -/
def Logged (store : SubmissionStore) (t : Tracker) : Prop :=
  ∀ k, Logs (store.statusOf k) (announced t.updates k) (t.store.statusOf k)

lemma Logged.empty (settings : TrackerSettings) (store : SubmissionStore) :
    Logged store (Tracker.empty settings store) := fun _ => .nil _

lemma announced_append_self (us : List StatusUpdate) (u : StatusUpdate) :
    announced (us ++ [u]) (u.account, u.hash) = announced us (u.account, u.hash) ++ [u.status] := by
  simp [announced]

lemma announced_append_of_ne {us : List StatusUpdate} {u : StatusUpdate} (hne : (u.account, u.hash) ≠ k) :
    announced (us ++ [u]) k = announced us k := by
  simp [announced, hne]

/-- An event goes on with the logs. -/
lemma Announces.logged {store : SubmissionStore} (h : Announces t x t') (ht : Logged store t) :
    Logged store t' := by
  rintro ⟨a, hash⟩
  cases h with
  | nothing hcontents hupdates =>
      have hstatus : t'.store.statusOf (a, hash) = t.store.statusOf (a, hash) := by
        rw [SubmissionStore.statusOf, SubmissionStore.statusOf, hcontents]
      rw [hupdates, hstatus]
      exact ht (a, hash)
  | @one u ss ss' _ hss hss' _ hshows hothers hupdates =>
      rw [hupdates]
      by_cases hkey : (u.account, u.hash) = (a, hash)
      · obtain ⟨rfl, rfl⟩ := Prod.mk.inj hkey
        rw [announced_append_self, SubmissionStore.statusOf_of_contents hss', hshows.now]
        refine (ht _).append ?_
        rw [SubmissionStore.statusOf_of_contents hss]
        exact hshows.before
      · have hstatus : t'.store.statusOf (a, hash) = t.store.statusOf (a, hash) := by
          by_cases hab : u.account = a
          · subst hab
            have hne : hash ≠ u.hash := fun heq => hkey (by rw [heq])
            rw [SubmissionStore.statusOf_of_contents hss', SubmissionStore.statusOf_of_contents hss,
              hshows.others hne]
          · rw [SubmissionStore.statusOf, SubmissionStore.statusOf, hothers a hab]
        rw [announced_append_of_ne hkey, hstatus]
        exact ht (a, hash)

theorem run_logged {settings : TrackerSettings} {store : SubmissionStore} {xs : List TrackerAction}
    (h : (Tracker.empty settings store).run xs = some t) : Logged store t :=
  run_induction (P := Logged store) (fun _ hact => (act_announces hact).logged) h
    (.empty settings store)

/-- In a store of distinct hashes, every submission has come as far as its entry says. -/
lemma statusOf_of_mem {st : SubmissionStore} (hd : st.AllDistinct) {a : Account}
    {ss : List Submission} {s : Submission} (hss : st.contents a = .ok ss) (hs : s ∈ ss) :
    st.statusOf (a, s.hash) = some s.status := by
  rw [SubmissionStore.statusOf_of_contents hss, statusIn_of_mem (hd a ss hss) hs]

/-- The updates that were sent are a log of the store. What they announce about a submission, in order, is
a path of legal steps: from the status that it had when the tracker was made, or from a commitment if it
was not stored then, to the one that it has now. One more event changes no list and sends nothing, or
changes one list and sends the one update that shows the change. Nothing is sent if the store does not load
or save the list that the event is about. -/
theorem updates_log_the_store {settings : TrackerSettings} {store : SubmissionStore}
    {xs : List TrackerAction} (hstore : store.AllDistinct)
    (h : (Tracker.empty settings store).run xs = some t) :
    (∀ k, List.IsChain (fun x y => x.canBecome y = true)
        ((store.statusOf k).toList ++ announced t.updates k) ∧
      (store.statusOf k = none → ∀ s ∈ (announced t.updates k).head?, s = .committed) ∧
      t.store.statusOf k = ((store.statusOf k).toList ++ announced t.updates k).getLast?) ∧
    (∀ a ss s, store.contents a = .ok ss → s ∈ ss → store.statusOf (a, s.hash) = some s.status) ∧
    (∀ a ss s, t.store.contents a = .ok ss → s ∈ ss → t.store.statusOf (a, s.hash) = some s.status) ∧
    (∀ x t', t.act x = some t' →
      (t'.updates = t.updates ∧ ∀ a, t'.store.contents a = t.store.contents a) ∨
      ∃ u ss ss', t'.updates = t.updates ++ [u] ∧ t.accountOf x = some u.account ∧
        t.store.contents u.account = .ok ss ∧ t'.store.contents u.account = .ok ss' ∧ ss' ≠ ss ∧
        Written t x ss ss' ∧ Shows ss ss' u.hash u.status ∧
        ∀ a, u.account ≠ a → t'.store.contents a = t.store.contents a) ∧
    (∀ x t' a, t.act x = some t' → t.accountOf x = some a →
      ((∃ e, t.store.load a = .error e) ∨ ∃ ss e, t.store.save a ss = .error e) →
      t'.updates = t.updates ∧ ∀ b, t'.store.contents b = t.store.contents b) ∧
    ∀ g guard hash now e, t.scopes.guards.get? g = some guard → t.add guard hash now = .error e →
      t.act (.add g hash now) = some t := by
  have hlogs := run_logged h
  have hdistinct := run_distinct h hstore
  refine ⟨fun k => ⟨(hlogs k).legal, (hlogs k).opening, (hlogs k).current⟩,
    fun a ss s hss hs => statusOf_of_mem hstore hss hs,
    fun a ss s hss hs => statusOf_of_mem hdistinct hss hs, fun x t' hact => ?_,
    fun x t' a hact haccount hfails => act_silent hact haccount hfails,
    fun g guard hash now e hg hadd => act_of_add_failed hg hadd⟩
  cases act_announces hact with
  | nothing hcontents hupdates => exact .inl ⟨hupdates, hcontents⟩
  | @one u ss ss' haccount hss hss' hwritten hshows hothers hupdates =>
      have hne : ss' ≠ ss := fun heq => hshows.ne (by rw [heq])
      exact .inr ⟨u, ss, ss', hupdates, haccount, hss, hss', hne, hwritten, hshows, hothers⟩

/-- A ballot comes to be verified; another one is not added, because the store fails when it is about to be
saved, and there is no update about it. -/
theorem updates_log_the_store_of_failed_save :
    ∃ t, (Tracker.empty ⟨10, none⟩ .ofLists).run
        [.acquire ⟨.replicate 1⟩, .add 0 ⟨.replicate 2⟩ .epoch, .step 0 .start,
          .step 0 (.finalized (.ok .success)), .upset none (some .storage) none,
          .add 0 ⟨.replicate 3⟩ .epoch, .upset none none none,
          .step 0 (.answered (.ok (some ⟨⟨.replicate 2⟩, ⟨.replicate 1⟩, .epoch, true⟩)))] = some t ∧
      announced t.updates (⟨.replicate 1⟩, ⟨.replicate 2⟩) = [.committed, .approved, .verified] ∧
      announced t.updates (⟨.replicate 1⟩, ⟨.replicate 3⟩) = [] ∧
      t.store.statusOf (⟨.replicate 1⟩, ⟨.replicate 2⟩) =
        (announced t.updates (⟨.replicate 1⟩, ⟨.replicate 2⟩)).getLast? :=
  ⟨_, rfl, by decide, by decide,
    ((@updates_log_the_store _ ⟨10, none⟩ .ofLists
      [.acquire ⟨.replicate 1⟩, .add 0 ⟨.replicate 2⟩ .epoch, .step 0 .start,
        .step 0 (.finalized (.ok .success)), .upset none (some .storage) none,
        .add 0 ⟨.replicate 3⟩ .epoch, .upset none none none,
        .step 0 (.answered (.ok (some ⟨⟨.replicate 2⟩, ⟨.replicate 1⟩, .epoch, true⟩)))]
      SubmissionStore.allDistinct_ofLists rfl).1 (⟨.replicate 1⟩, ⟨.replicate 2⟩)).2.2⟩

end Tracker

end ChainElection
