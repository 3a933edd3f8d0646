import Mathlib.Tactic
import ChainElection.Proofs.Monitor.Refusals
import ChainElection.Proofs.Monitor.Starts
import ChainElection.Proofs.Session.Connections
import ChainElection.Proofs.Session.Receipts

/-!
A store that does not work is not made worse.

Others may write to the store at any time, and may leave a text there that is no
list. Then everyone who needs the list is told, and nothing is written until the
store gives the list back.

* `sound_of_runShared`: the invariants do not depend on what others do to the
  store.
* `SubmissionStore.load_of_spoilt`: a text that is no list is not loaded.
* `Session.LeavesNoTrace` puts together what is left of those who are refused,
  and how monitoring is resumed once the store works again;
  `refusals_leave_no_trace` says that it always is so.
-/

namespace ChainElection

open Submission

/-- A text that is no list is not loaded. -/
lemma SubmissionStore.load_of_spoilt {st : SubmissionStore} {kept : Table String String} {a : Account}
    {text : String} {fault : Json.Fault} (hkept : st.kept = .texts kept) (hfault : st.loadFault = none)
    (htext : kept.get? (storageKey a) = some text) (hread : readList text = .error fault) :
    st.load a = .error .json := by
  rw [load, hfault]
  simp only [contents, hkept, htext, readKept, hread]

namespace Session

variable {s s' : Session} {x : SharedAction} {xs : List SharedAction} {a : Account} {g σ : ℕ}
  {guard : Guard} {h : TransactionHash} {now : ClockTime} {e : ClientError}

/-! ### Runs with others at the store -/

lemma Sound.actShared (hs : s.Sound) (h : s.actShared x = some s') : s'.Sound := by
  cases x with
  | own x => exact hs.act h
  | others st =>
      cases h
      exact hs.withStore st

lemma runShared_sound (h : s.runShared xs = some s') (hs : s.Sound) : s'.Sound := by
  induction xs generalizing s with
  | nil =>
      cases h
      exact hs
  | cons x r ih =>
      obtain ⟨s₁, hx, hr⟩ := Option.bind_eq_some_iff.mp h
      exact ih hr (hs.actShared hx)

/-- A run goes on with one more event. -/
lemma runShared_concat {s₀ : Session} (h : s₀.runShared xs = some s) (hx : s.actShared x = some s') :
    s₀.runShared (xs ++ [x]) = some s' := by
  induction xs generalizing s₀ with
  | nil =>
      cases h
      rw [List.nil_append, runShared, hx, Option.bind_some, runShared]
  | cons y r ih =>
      obtain ⟨s₁, hy, hr⟩ := Option.bind_eq_some_iff.mp h
      rw [List.cons_append, runShared, hy, Option.bind_some, ih hr]

lemma sound_of_runShared {contract : ElectionContract} {settings : TrackerSettings}
    {store : SubmissionStore}
    (h : (Session.new contract (.empty settings store)).runShared xs = some s) : s.Sound :=
  runShared_sound h (.new contract settings store)

/-! ### Those who are refused -/

/-- Resuming monitoring in vain is no event at all. -/
lemma act_init_of_error (hg : s.tracker.scopes.guards.get? g = some guard)
    (hinit : s.tracker.init guard = .error e) : s.act (.track (.init g)) = some s := by
  have hact : s.tracker.act (.init g) = some s.tracker := by
    rw [Tracker.act, hg, Option.map_some, hinit, Tracker.orElse]
  simp only [act, mayTrack, if_true, hact, Option.map_some]

lemma act_add_of_error (hg : s.tracker.scopes.guards.get? g = some guard)
    (hadd : s.tracker.add guard h now = .error e) : s.act (.track (.add g h now)) = some s := by
  have hact : s.tracker.act (.add g h now) = some s.tracker := by
    rw [Tracker.act, hg, Option.map_some, hadd, Tracker.orElse]
  simp only [act, mayTrack, if_true, hact, Option.map_some]

/-! ### Once the store works again -/

/-- Monitoring is resumed for those pending submissions that nobody watches, each of them once. -/
structure Resumes (s : Session) (a : Account) (σ : ℕ) (ss : List Submission) (t' : Tracker)
    (ms : List ℕ) (hashes : List TransactionHash) : Prop where
  began : s.tracker.Began a σ hashes ms t'
  distinct : hashes.Nodup
  mem_iff : ∀ h, h ∈ hashes ↔
    h ∈ Tracker.pending ss ∧ ∀ i m, s.tracker.Watches i m → m.key ≠ (a, h)

lemma Sound.resumes (hs : s.Sound) {st : SubmissionStore} {ss : List Submission}
    (hg : s.tracker.scopes.guards.get? g = some ⟨a, σ⟩) (hload : st.load a = .ok ss) :
    ∃ ms t' hashes, (s.withStore st).tracker.init ⟨a, σ⟩ = .ok (ms, t') ∧
      s.Resumes a σ ss t' ms hashes := by
  obtain ⟨ms, t', hinit, hbegan⟩ := (hs.withStore st).tracker.init_began (g := g) hg hload
  exact ⟨ms, t', s.tracker.unclaimed a (Tracker.pending ss), hinit, hbegan.of_eq rfl rfl,
    s.tracker.nodup_unclaimed a _, fun _ => hs.tracker.mem_unclaimed_iff⟩

/-- What is left of those whom the store of a session refuses, and how monitoring is resumed later. Refusals
are judged at each access to the store by itself.

A text that is no list is not loaded. Resuming an account's monitoring and connecting it fail with the error
of the load, just if there is one, and adding a submission fails with the error with which the store refuses
it. A monitor that touches the list, be it to look its submission up or to take it on, ends with the error
with which the store refuses this (`halts`), and only so does it end with an error of the store (`halted`).
All of them leave everything as it is at the moment at which they are refused; of a monitor not even the
claim is left. That moment is the one at which they began, or the look-up that follows a submission taken
on, if the store does not give back what it has just taken (`moment`). A list that is not loaded, or not
saved, is refused at the beginning (`unloaded`, `unsaved`). All claims are those of running monitors. So
once the list can be loaded again, resuming its monitoring under any guard starts a monitor for each pending
submission that nobody watches, and for no other. -/
structure LeavesNoTrace (s : Session) : Prop where
  spoilt : ∀ kept a text fault, s.tracker.store.kept = .texts kept → s.tracker.store.loadFault = none →
    kept.get? (storageKey a) = some text → readList text = .error fault →
      s.tracker.store.load a = .error .json
  init : ∀ g guard e, s.tracker.scopes.guards.get? g = some guard →
    (s.tracker.init guard = .error e ↔ s.tracker.store.load guard.account = .error e) ∧
      (s.tracker.init guard = .error e → s.act (.track (.init g)) = some s)
  add : ∀ g guard h now e, s.tracker.scopes.guards.get? g = some guard →
    (s.tracker.add guard h now = .error e ↔ s.tracker.store.Refuses guard.account h now e) ∧
      (s.tracker.add guard h now = .error e → s.act (.track (.add g h now)) = some s)
  connect : ∀ w a e, ((s.connect w a).1 = .error e ↔ s.tracker.store.load a = .error e) ∧
    ((s.connect w a).1 = .error e → s.Untouched (s.connect w a).2)
  halts : ∀ i m event next? u e, s.tracker.monitors.get? i = some m →
    s.tracker.scopes.isAborted m.signal = false → m.Consults event next? → s.tracker.Meets m next? u e →
      ∃ t', s.tracker.step i event = some t' ∧ s.tracker.Halts i m e u t'
  halted : ∀ i m event t' m' e, s.tracker.monitors.get? i = some m → s.tracker.step i event = some t' →
    t'.monitors.get? i = some m' → m'.phase = .ended (.failed .store e) →
      s.tracker.scopes.isAborted m.signal = false ∧ ∃ next? u, m.Consults event next? ∧
        s.tracker.Meets m next? u e ∧ s.tracker.Halts i m e u t'
  moment : ∀ m next? u e, s.tracker.Meets m next? u e →
    u = s.tracker ∨ s.tracker.store.reloadFault = some e ∧ Tracker.Writes s.tracker m u
  unloaded : ∀ m next? e, s.tracker.store.load m.account = .error e →
    ∀ u e', s.tracker.Meets m next? u e' ↔ u = s.tracker ∧ e' = e
  unsaved : ∀ m next ss ss' e, s.tracker.store.load m.account = .ok ss →
    Tracker.moveFirst m.hash next ss = some (.ok ss') →
      s.tracker.store.save m.account ss' = .error e → s.tracker.Meets m (some next) s.tracker e
  owned : ∀ k c, s.tracker.claims.get? k = some c → ∃ i m, s.tracker.monitors.get? i = some m ∧
    m.isRunning = true ∧ m.key = k ∧ c = ⟨m.claim, m.signal⟩
  resumes : ∀ st g a σ ss, s.tracker.scopes.guards.get? g = some ⟨a, σ⟩ → st.load a = .ok ss →
    ∃ ms t' hashes, (s.withStore st).tracker.init ⟨a, σ⟩ = .ok (ms, t') ∧ s.Resumes a σ ss t' ms hashes

lemma Sound.leavesNoTrace (hs : s.Sound) : s.LeavesNoTrace where
  spoilt _ _ _ _ hkept hfault htext hread := SubmissionStore.load_of_spoilt hkept hfault htext hread
  init _ _ _ hg := ⟨Tracker.init_eq_error_iff, act_init_of_error hg⟩
  add _ _ _ _ _ hg := ⟨Tracker.add_eq_error_iff, act_add_of_error hg⟩
  connect w a e := ⟨connect_eq_error_iff s w a e, hs.untouched⟩
  halts _ _ _ _ _ _ hm hlive hconsults hmeets := hs.tracker.step_of_meets hm hlive hconsults hmeets
  halted _ _ _ _ m' _ hm hstep hm' hphase := by
    obtain ⟨hlive, -, hmeets⟩ := (hs.tracker.step_halts_iff hm).mp ⟨m', hstep, hm', hphase⟩
    exact ⟨hlive, hmeets⟩
  moment _ _ _ _ hmeets := hmeets.eq_or_reload.imp_right fun hreload => ⟨hreload, hmeets.writes⟩
  unloaded _ _ _ hload _ _ := Tracker.meets_iff_of_load hload
  unsaved _ _ ss ss' _ hload hmove hsave :=
    .moving (Tracker.persist_eq_store_iff.mpr (.inr ⟨ss, ss', hload, hmove, hsave⟩))
  owned _ _ hc := hs.tracker.owner hc
  resumes _ _ _ _ _ hg hload := hs.resumes hg hload

/-- Whatever has been done with a session, and whatever others have done to its store, those whom the store
refuses leave no trace, and monitoring is resumed once the store works again. -/
theorem refusals_leave_no_trace {contract : ElectionContract} {settings : TrackerSettings}
    {store : SubmissionStore}
    (h₀ : (Session.new contract (.empty settings store)).runShared xs = some s) : s.LeavesNoTrace :=
  (sound_of_runShared h₀).leavesNoTrace

/-- The list of an account is spoilt while its submission is on its way. The monitor ends with the error,
and so does connecting once more; then the list is repaired, and a new monitor is started. -/
theorem refusals_leave_no_trace_of_spoilt_list :
    ∃ s t' s' hashes t'' ms, (Session.new ⟨⟨0, 0⟩, "election"⟩ (.empty ⟨10, none⟩ .ofTexts)).runShared
        [.own (.connect 0 ⟨.replicate 1⟩), .own (.track (.add 0 ⟨.replicate 2⟩ .epoch)),
          .others (SubmissionStore.ofTexts.overwrite ⟨.replicate 1⟩ "oops")] = some s ∧
      s.tracker.store.load ⟨.replicate 1⟩ = .error .json ∧
      s.tracker.step 0 .start = some t' ∧
      s.tracker.Halts 0 (.fresh ⟨.replicate 1⟩ ⟨.replicate 2⟩ 0 0) .json s.tracker t' ∧
      s.actShared (.own (.track (.step 0 .start))) = some s' ∧
      (s'.connect 1 ⟨.replicate 1⟩).1 = .error .json ∧
      s'.Untouched (s'.connect 1 ⟨.replicate 1⟩).2 ∧
      (s'.withStore (SubmissionStore.ofTexts.overwrite ⟨.replicate 1⟩
        (listText [.fresh ⟨.replicate 2⟩ .epoch]))).tracker.init ⟨⟨.replicate 1⟩, 0⟩ = .ok (ms, t'') ∧
      s'.Resumes ⟨.replicate 1⟩ 0 [.fresh ⟨.replicate 2⟩ .epoch] t'' ms hashes ∧
      ⟨.replicate 2⟩ ∈ hashes := by
  obtain ⟨s, h⟩ : ∃ s, (Session.new ⟨⟨0, 0⟩, "election"⟩ (.empty ⟨10, none⟩ .ofTexts)).runShared
        [.own (.connect 0 ⟨.replicate 1⟩), .own (.track (.add 0 ⟨.replicate 2⟩ .epoch)),
          .others (SubmissionStore.ofTexts.overwrite ⟨.replicate 1⟩ "oops")] = some s := ⟨_, rfl⟩
  obtain ⟨hstore, hm, hnone, hlive, hg⟩ :
      s.tracker.store = SubmissionStore.ofTexts.overwrite ⟨.replicate 1⟩ "oops" ∧
      s.tracker.monitors.get? 0 = some (.fresh ⟨.replicate 1⟩ ⟨.replicate 2⟩ 0 0) ∧
      (∀ i, i ≠ 0 → s.tracker.monitors.get? i = none) ∧
      s.tracker.scopes.isAborted 0 = false ∧
      s.tracker.scopes.guards.get? 0 = some ⟨⟨.replicate 1⟩, 0⟩ := by
    cases h
    refine ⟨rfl, rfl, fun i hi => ?_, rfl, rfl⟩
    exact (Table.get?_set ..).trans (if_neg (Ne.symm hi))
  have htrace := refusals_leave_no_trace h
  have hload : s.tracker.store.load ⟨.replicate 1⟩ = .error .json := by
    refine htrace.spoilt (Table.empty.set (storageKey ⟨.replicate 1⟩) "oops") _ "oops" _ ?_ ?_
      (Table.get?_set_self ..) rfl <;> rw [hstore] <;> rfl
  obtain ⟨t', ht', hhalts⟩ := htrace.halts 0 _ .start none s.tracker .json hm hlive (.looks rfl)
    ((htrace.unloaded _ none .json hload s.tracker .json).mpr ⟨rfl, rfl⟩)
  have hact : s.actShared (.own (.track (.step 0 .start))) = some { s with tracker := t' } := by
    simp only [actShared, act, mayTrack, if_true, Tracker.act, ht', Option.map_some]
  have htrace' := refusals_leave_no_trace (runShared_concat h hact)
  have hload' : t'.store.load ⟨.replicate 1⟩ = .error .json := by rw [hhalts.store, hload]
  have hfails := (htrace'.connect 1 ⟨.replicate 1⟩ .json).1.mpr hload'
  have hrepaired : (SubmissionStore.ofTexts.overwrite ⟨.replicate 1⟩
      (listText [.fresh ⟨.replicate 2⟩ .epoch])).load ⟨.replicate 1⟩ =
      .ok [.fresh ⟨.replicate 2⟩ .epoch] := by
    have hcontents := SubmissionStore.contents_overwrite_ofTexts ⟨.replicate 1⟩
      (listText [.fresh ⟨.replicate 2⟩ .epoch])
    rwa [SubmissionStore.readKept, readList_listText] at hcontents
  obtain ⟨ms, t'', hashes, hinit, hresumed⟩ :=
    htrace'.resumes _ 0 ⟨.replicate 1⟩ 0 _ (hhalts.scopes ▸ hg) hrepaired
  refine ⟨s, t', _, hashes, t'', ms, h, hload, ht', hhalts, hact, hfails, (htrace'.connect ..).2 hfails,
    hinit, hresumed, (hresumed.mem_iff _).mpr ⟨by decide, fun i m hw _ => ?_⟩⟩
  -- the only monitor that there has been does not run any more
  by_cases hi : i = 0
  · subst hi
    obtain ⟨m', hm', -, hphase⟩ := hhalts.ended
    obtain rfl := Option.some.inj (hm'.symm.trans hw.found)
    have hstopped := Monitor.isRunning_eq_false_iff.mpr ⟨_, hphase⟩
    cases hstopped.symm.trans hw.running
  · cases ((hhalts.others i hi).trans (hnone i hi)).symm.trans hw.found

end Session

end ChainElection
