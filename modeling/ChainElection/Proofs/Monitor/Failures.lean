import Mathlib.Tactic
import ChainElection.Proofs.Monitor.Phases

/-!
Failures: where the errors come from that monitors end with.

A monitor decides where its submission goes from a status that it looked up
before a wait, and applies this to a list that it loads after it. As long as its
signal is alive nobody else has moved the submission in the meantime, so the
step is legal; once the signal is aborted the monitor does not take it any more.
What is left are the failures of others. Nothing is asked of the stored lists:
a hash may occur in them more than once.

* `Tracker.Reported` says who told a monitor of an error in its turn: the event
  itself, or the store, when it was asked to load or to save.
* `Turns.reported`: a turn ends with an error only if it was reported in it.
* `Tracker.Reports` finds the turn in a run; `run_reports` does so for all
  monitors that have failed.
* `TrackerAction.errors` and `SubmissionStore.faults` are all errors that can be
  reported at all; `Faulted.act` follows them through a run.
* `failures_are_reported` puts all of this together.
-/

namespace ChainElection

/-- The errors that an event brings along: what the node or the verification service says, or what a store
that gets out of order is going to say. -/
def TrackerAction.errors : TrackerAction → List ClientError
  | .step _ event => (event.failure.map Prod.snd).toList
  | .upset load save reload => load.toList ++ save.toList ++ reload.toList
  | _ => []

namespace SubmissionStore

/-- The errors that a store that is out of order is going to report. -/
def faults (st : SubmissionStore) : List ClientError :=
  st.loadFault.toList ++ st.saveFault.toList ++ st.reloadFault.toList

/-- What is kept for an account is refused only if it is not a list. -/
lemma eq_json_of_contents {st : SubmissionStore} {a : Account} {e : ClientError}
    (h : st.contents a = .error e) : e = .json := by
  rw [contents] at h
  split at h
  · cases h
  · rw [readKept.eq_def] at h
    split at h
    · cases h
    · split at h
      · cases h
      · cases h
        rfl

/-- A store that does not load a list is out of order, or it keeps something that is not a list. -/
lemma mem_faults_of_load {st : SubmissionStore} {a : Account} {e : ClientError}
    (h : st.load a = .error e) : e ∈ st.faults ∨ e = .json := by
  rw [load] at h
  split at h
  · rename_i e' hfault
    cases h
    exact .inl (by simp [faults, hfault])
  · exact .inr (eq_json_of_contents h)

lemma mem_faults_of_save {st : SubmissionStore} {a : Account} {ss : List Submission} {e : ClientError}
    (h : st.save a ss = .error e) : e ∈ st.faults := by
  rw [save_eq_error_iff] at h
  simp [faults, h]

/-- A store that has saved something reports no errors that it did not have in stock. -/
lemma faults_of_save {st st' : SubmissionStore} {a : Account} {ss : List Submission}
    (h : st.save a ss = .ok st') {e : ClientError} (he : e ∈ st'.faults) : e ∈ st.faults := by
  obtain ⟨-, rfl⟩ := save_eq_ok_iff.mp h
  simp only [faults, List.mem_append] at he ⊢
  tauto

end SubmissionStore

namespace Tracker

open Submission

variable {t t' : Tracker} {m m' : Monitor} {event : MonitorEvent} {id : ℕ} {x : TrackerAction}
  {how : MonitorEnd} {culprit : Culprit} {e : ClientError}

/-! ### One turn -/

/-- Who tells a monitor of an error in its turn: the event that it was waiting for is a failure, or the
store does not load or save the list of the monitor's account, or saves it and does not load it again. -/
inductive Reported (t : Tracker) (m : Monitor) (event : MonitorEvent) : Culprit → ClientError → Prop where
  | met {culprit : Culprit} {e : ClientError} (hmet : event.failure = some (culprit, e)) :
      Reported t m event culprit e
  | loading {e : ClientError} (hload : t.store.load m.account = .error e) : Reported t m event .store e
  | saving {ss : List Submission} {e : ClientError} (hsave : t.store.save m.account ss = .error e) :
      Reported t m event .store e
  | reloading {ss : List Submission} {store : SubmissionStore} {e : ClientError}
      (hsave : t.store.save m.account ss = .ok store) (hload : store.load m.account = .error e) :
      Reported t m event .store e

/-- An event that fails is the failure of the node or of the verification service. -/
lemma culprit_of_failure (h : event.failure = some (culprit, e)) :
    culprit = .node ∨ culprit = .verifier := by
  unfold MonitorEvent.failure at h
  split at h
  · cases h
    exact .inl rfl
  · cases h
    exact .inr rfl
  · obtain ⟨e', -, heq⟩ := Option.map_eq_some_iff.mp h
    cases heq
    exact .inr rfl
  · cases h

/-- A monitor is never told that it is to blame itself. -/
lemma Reported.ne_monitor (h : Reported t m event culprit e) : culprit ≠ .monitor := by
  cases h with
  | met hmet => rcases culprit_of_failure hmet with rfl | rfl <;> decide
  | _ => decide

/-- A poll that is not made is no error. -/
lemma poll_result {polls : UInt32} (hphase : (t.poll m polls).phase = .ended how) :
    how.result ≠ some (.error e) := by
  rcases poll_cases t m polls with ⟨h, -⟩ | ⟨h, -⟩ | ⟨h, -⟩ <;> rw [h] at hphase
  · cases hphase
    exact nofun
  · cases hphase
    exact nofun
  · cases hphase

/-- A round begins with an error only if the list is not loaded. -/
lemma beginRound_result (hlive : t.scopes.isAborted m.signal = false)
    (hphase : (t.beginRound m).phase = .ended how) (hresult : how.result = some (.error e)) :
    how = .failed .store e ∧ t.store.load m.account = .error e := by
  have hbegins := beginRound_begins hlive
  generalize t.beginRound m = m' at hphase hbegins
  cases hbegins with
  | failed hload =>
      cases hphase
      cases hresult
      exact ⟨rfl, hload⟩
  | approved _ _ => exact absurd hresult (poll_result hphase)
  | committed _ _ => cases hphase
  | missing _ _ =>
      cases hphase
      cases hresult
  | settled _ _ _ =>
      cases hphase
      cases hresult

/-- A monitor in step ends its round with an error only if the store fails. -/
lemma endRound_result {status next : SubmissionStatus} (event : MonitorEvent)
    (hlive : t.scopes.isAborted m.signal = false) (hstatus : t.StatusIs m status)
    (hlegal : status.canBecome next = true) (hphase : (t.endRound m next).2.phase = .ended how)
    (hresult : how.result = some (.error e)) : how = .failed .store e ∧ Reported t m event .store e := by
  rw [endRound] at hphase
  rcases persist_of_statusIs hstatus hlegal with ⟨e', h, hfails⟩ | ⟨⟨t₁, m₁⟩, h⟩ <;> rw [h] at hphase
  · cases hphase
    cases hresult
    rcases hfails with hload | ⟨ss, hsave⟩
    · exact ⟨rfl, .loading hload⟩
    · exact ⟨rfl, .saving hsave⟩
  · obtain ⟨hw, hsame⟩ := persist_cases h
    have hlive' : t₁.scopes.isAborted m₁.signal = false := by rw [hw.scopes, hsame.signal, hlive]
    obtain ⟨hhow, hload⟩ := beginRound_result hlive' hphase hresult
    rw [hsame.account] at hload
    refine ⟨hhow, ?_⟩
    cases hw with
    | nothing => exact .loading hload
    | step _ _ hsave => exact .reloading hsave hload

/-- A turn ends with an error only if the monitor is told of it in this turn, provided that the monitor is
in step or its signal is aborted. -/
theorem Turns.reported (h : Turns t m event t' m')
    (hm : t.scopes.isAborted m.signal = false → t.InStep m) (hphase : m'.phase = .ended how)
    (hresult : how.result = some (.error e)) :
    ∃ culprit, how = .failed culprit e ∧ Reported t m event culprit e := by
  cases hlive : t.scopes.isAborted m.signal with
  | true =>
      obtain ⟨-, -, how', hphase', hends⟩ := h.retires hlive
      obtain rfl : how' = how := MonitorPhase.ended.inj (hphase'.symm.trans hphase)
      rcases hends with hok | ⟨culprit, e', hmet, rfl⟩ | ⟨rfl, -⟩
      · rw [hok] at hresult
        cases hresult
      · cases hresult
        exact ⟨culprit, rfl, .met hmet⟩
      · cases hresult
  | false =>
      have hin := hm hlive
      cases h with
      | started _ =>
          obtain ⟨hhow, hload⟩ := beginRound_result hlive hphase hresult
          exact ⟨.store, hhow, .loading hload⟩
      | nodeFailed _ _ =>
          cases hphase
          cases hresult
          exact ⟨.node, rfl, .met rfl⟩
      | verifierFailed _ _ =>
          cases hphase
          cases hresult
          exact ⟨.verifier, rfl, .met rfl⟩
      | stopped _ haborted => exact absurd haborted (by simp [hlive])
      | finalized hwaits _ outcome =>
          have hstatus : t.StatusIs m .committed := hin.status (by rw [hwaits]; rfl)
          have hlegal := canBecome_statusAfter outcome
          exact ⟨.store, endRound_result _ hlive hstatus hlegal hphase hresult⟩
      | judged hpolls _ r =>
          have hstatus : t.StatusIs m .approved := hin.status (by rw [hpolls]; rfl)
          have hlegal := canBecome_statusOfVerdict r.verified
          exact ⟨.store, endRound_result _ hlive hstatus hlegal hphase hresult⟩
      | fellAsleep _ _ => cases hphase
      | awoke _ _ _ => exact absurd hresult (poll_result hphase)
      | gaveUp _ haborted _ => exact absurd haborted (by simp [hlive])

/-! ### Runs -/

/-- A monitor was told of an error at some event of a run. -/
inductive Reports (t₀ : Tracker) (id : ℕ) (m : Monitor) (culprit : Culprit) (e : ClientError) :
    List TrackerAction → Prop where
  | intro {us vs : List TrackerAction} {u : Tracker} {n : Monitor} {event : MonitorEvent}
      (hu : t₀.run us = some u) (hn : u.monitors.get? id = some n) (hsame : n.Same m)
      (hreported : Reported u n event culprit e) :
      Reports t₀ id m culprit e (us ++ .step id event :: vs)

lemma Reports.append {t₀ : Tracker} {xs : List TrackerAction} (h : Reports t₀ id m culprit e xs)
    (ys : List TrackerAction) : Reports t₀ id m culprit e (xs ++ ys) := by
  cases h with
  | intro hu hn hsame hreported =>
      rw [List.append_assoc, List.cons_append]
      exact .intro hu hn hsame hreported

/-- Every monitor that has failed in a run was told of its error in it. -/
theorem run_reports {t₀ : Tracker} (h₀ : t₀.AllInStep) (hnone : ∀ {i}, t₀.monitors.get? i = none)
    {xs : List TrackerAction} (h : t₀.run xs = some t) (hm : t.monitors.get? id = some m)
    (hphase : m.phase = .ended how) (hresult : how.result = some (.error e)) :
    ∃ culprit, how = .failed culprit e ∧ culprit ≠ .monitor ∧ Reports t₀ id m culprit e xs := by
  -- the turn in which the monitor ended is that of the last event, or it was one before
  induction xs using List.reverseRecOn generalizing t with
  | nil =>
      cases h
      rw [hnone] at hm
      cases hm
  | append_singleton us x ih =>
      rw [run_append] at h
      obtain ⟨u, hu, hx⟩ := Option.bind_eq_some_iff.mp h
      obtain ⟨t₁, hact, ht₁⟩ := Option.bind_eq_some_iff.mp hx
      cases ht₁
      cases act_becomes hact hm with
      | kept hm _ =>
          obtain ⟨culprit, hhow, hne, hreports⟩ := ih hu hm
          exact ⟨culprit, hhow, hne, hreports.append [x]⟩
      | started _ _ _ _ _ => cases hphase
      | turned hn hturn =>
          have hin : u.scopes.isAborted _ = false → u.InStep _ := fun hlive =>
            (run_allInStep hu h₀).inStep ⟨hn, hturn.isRunning, hlive⟩
          obtain ⟨culprit, hhow, hreported⟩ := hturn.reported hin hphase hresult
          exact ⟨culprit, hhow, hreported.ne_monitor, .intro hu hn hturn.same hreported⟩
      | killed _ _ =>
          cases hphase
          cases hresult

/-! ### All errors there are -/

/-- The errors that a store has in stock were there before the run, or an event of it has brought them. -/
def Faulted (store : SubmissionStore) (xs : List TrackerAction) (t : Tracker) : Prop :=
  ∀ e ∈ t.store.faults, e ∈ store.faults ∨ ∃ x ∈ xs, e ∈ x.errors

/-- Only a store that gets out of order gets new errors. -/
lemma act_faults (h : t.act x = some t') (he : e ∈ t'.store.faults) :
    e ∈ t.store.faults ∨ e ∈ x.errors := by
  have hsaves := act_saves h
  generalize t'.store = store, t'.updates = updates at he hsaves
  cases hsaves with
  | nothing => exact .inl he
  | upset hx =>
      subst hx
      exact .inr he
  | saved _ _ _ hsave _ => exact .inl (SubmissionStore.faults_of_save hsave he)

lemma run_faulted {settings : TrackerSettings} {store : SubmissionStore} {xs : List TrackerAction}
    (h : (Tracker.empty settings store).run xs = some t) : Faulted store xs t := by
  refine run_induction (P := Faulted store xs) (fun {u u' x} hx hact hu e he => ?_) h
    fun e he => .inl he
  rcases act_faults hact he with hold | hnew
  · exact hu e hold
  · exact .inr ⟨x, hx, hnew⟩

/-- What a monitor is told of in a turn is an error that the store has in stock or that the turn's event
brings, or the store keeps something that is not a list. -/
lemma Reported.origin (h : Reported t m event culprit e) (id : ℕ) :
    e ∈ t.store.faults ∨ e ∈ (TrackerAction.step id event).errors ∨ e = .json := by
  cases h with
  | met hmet => exact .inr (.inl (by simp [TrackerAction.errors, hmet]))
  | loading hload => exact (SubmissionStore.mem_faults_of_load hload).imp_right .inr
  | saving hsave => exact .inl (SubmissionStore.mem_faults_of_save hsave)
  | reloading hsave hload =>
      rcases SubmissionStore.mem_faults_of_load hload with hfault | hjson
      · exact .inl (SubmissionStore.faults_of_save hsave hfault)
      · exact .inr (.inr hjson)

lemma Reports.origin {settings : TrackerSettings} {store : SubmissionStore} {xs : List TrackerAction}
    (h : Reports (Tracker.empty settings store) id m culprit e xs) :
    e ∈ store.faults ∨ (∃ x ∈ xs, e ∈ x.errors) ∨ e = .json := by
  cases h with
  | @intro us vs u n event hu _ _ hreported =>
      rcases hreported.origin id with hfault | hmet | hjson
      · rcases run_faulted hu e hfault with hold | ⟨x, hx, he⟩
        · exact .inl hold
        · exact .inr (.inl ⟨x, List.mem_append_left _ hx, he⟩)
      · exact .inr (.inl ⟨_, List.mem_append_right us List.mem_cons_self, hmet⟩)
      · exact .inr (.inr hjson)

/-- A monitor that ends with an error was told of it in its last turn: the node or the verification
service answered with it, or the store did not load or save the list of its account. It is never the
monitor itself that is to blame, because the step that it takes is always a legal one. So no monitor ends
because of an illegal step, unless others make use of this error for something else. -/
theorem failures_are_reported {settings : TrackerSettings} {store : SubmissionStore}
    {xs : List TrackerAction} (h : (Tracker.empty settings store).run xs = some t) :
    (∀ i m how e, t.monitors.get? i = some m → m.phase = .ended how → how.result = some (.error e) →
      ∃ culprit us event vs u m₀, how = .failed culprit e ∧ culprit ≠ .monitor ∧
        xs = us ++ .step i event :: vs ∧ (Tracker.empty settings store).run us = some u ∧
        u.monitors.get? i = some m₀ ∧ m₀.Same m ∧ Reported u m₀ event culprit e) ∧
    (∀ i m how e, t.monitors.get? i = some m → m.phase = .ended how → how.result = some (.error e) →
      e ∈ store.faults ∨ (∃ x ∈ xs, e ∈ x.errors) ∨ e = .json) ∧
    ((∀ hash old new, .illegalTransition hash old new ∉ store.faults ∧
        ∀ x ∈ xs, .illegalTransition hash old new ∉ x.errors) →
      ∀ i m how hash old new, t.monitors.get? i = some m → m.phase = .ended how →
        how.result ≠ some (.error (.illegalTransition hash old new))) := by
  have hreports := fun {i m how e} (hm : t.monitors.get? i = some m) (hphase : m.phase = .ended how)
      (hresult : how.result = some (.error e)) =>
    run_reports (.empty settings store) (fun {_} => rfl) h hm hphase hresult
  have horigin : ∀ i m how e, t.monitors.get? i = some m → m.phase = .ended how →
      how.result = some (.error e) → e ∈ store.faults ∨ (∃ x ∈ xs, e ∈ x.errors) ∨ e = .json := by
    intro i m how e hm hphase hresult
    obtain ⟨culprit, -, -, hreport⟩ := hreports hm hphase hresult
    exact hreport.origin
  refine ⟨fun i m how e hm hphase hresult => ?_, horigin, ?_⟩
  · obtain ⟨culprit, hhow, hne, hreport⟩ := hreports hm hphase hresult
    cases hreport with
    | @intro us vs u n event hu hn hsame hreported =>
        exact ⟨culprit, us, event, vs, u, n, hhow, hne, rfl, hu, hn, hsame, hreported⟩
  · intro hnone i m how hash old new hm hphase hresult
    rcases horigin i m how _ hm hphase hresult with hfault | ⟨x, hx, he⟩ | hjson
    · exact (hnone hash old new).1 hfault
    · exact (hnone hash old new).2 x hx he
    · cases hjson

/-- A scope comes back while the old monitor still waits. The old one meets a failure of the node, and the
store fails when the new one is about to save. -/
theorem failures_are_reported_of_remount :
    ∃ t, (Tracker.empty ⟨10, none⟩ .ofLists).run
        [.acquire ⟨.replicate 1⟩, .add 0 ⟨.replicate 2⟩ .epoch, .step 0 .start, .release 0,
          .acquire ⟨.replicate 1⟩, .init 1, .step 1 .start,
          .step 0 (.finalized (.error (.node "gone"))), .upset none (some .storage) none,
          .step 1 (.finalized (.ok .success))] = some t ∧
      (t.monitors.get? 0).map Monitor.phase = some (.ended (.failed .node (.node "gone"))) ∧
      (t.monitors.get? 1).map Monitor.phase = some (.ended (.failed .store .storage)) ∧
      ∀ i m how hash old new, t.monitors.get? i = some m → m.phase = .ended how →
        how.result ≠ some (.error (.illegalTransition hash old new)) := by
  refine ⟨_, rfl, by decide, by decide, ?_⟩
  refine (@failures_are_reported _ ⟨10, none⟩ .ofLists
    [.acquire ⟨.replicate 1⟩, .add 0 ⟨.replicate 2⟩ .epoch, .step 0 .start, .release 0,
      .acquire ⟨.replicate 1⟩, .init 1, .step 1 .start,
      .step 0 (.finalized (.error (.node "gone"))), .upset none (some .storage) none,
      .step 1 (.finalized (.ok .success))] rfl).2.2 fun hash old new => ⟨?_, ?_⟩
  · simp [SubmissionStore.ofLists, SubmissionStore.faults]
  · simp [TrackerAction.errors, MonitorEvent.failure]

end Tracker

end ChainElection
