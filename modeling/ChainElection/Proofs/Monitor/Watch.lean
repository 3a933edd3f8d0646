import Mathlib.Tactic
import ChainElection.Proofs.Monitor.Phases

/-!
No pending submission is left alone.

Once the monitoring of an account has been resumed under the signal of its
scope, and as long as that signal is alive, every pending submission has a
monitor that watches it, unless the last one that was started for it has ended
with an excuse.

* `Sound.startAll_watches`: right after monitors are started, every submission
  of the list is watched, be it by an old monitor or by a new one.
* `Tracker.Attends` is what holds of a pending submission, `Tracker.Attended`
  says it of all of an account. `Attends.act` and `Attended.act` carry both over
  an event, whoever comes and goes in the meantime.
* `pending_submissions_are_watched` is what this means over a run. One of the
  excuses is a count of polls that does not fit its word any more:
  `approved_ballot_is_left_alone` is a run in which nothing else is wrong.
-/

namespace ChainElection.Tracker

open Submission

variable {t t' : Tracker} {m m' : Monitor} {id σ : ℕ} {x : TrackerAction} {a : Account}
  {h : TransactionHash} {ys : List TrackerAction}

/-! ### Starting monitors -/

/-- A submission has a monitor that watches it under a signal. -/
def Watched (t : Tracker) (σ : ℕ) (k : Account × TransactionHash) : Prop :=
  ∃ id m, t.Watches id m ∧ m.key = k ∧ m.signal = σ

/-- The signal is that of the account's scope. -/
def IsCurrent (t : Tracker) (a : Account) (σ : ℕ) : Prop :=
  ∃ e, t.scopes.scopes.get? a = some e ∧ e.signal = σ

lemma Sound.live_of_isCurrent (ht : t.Sound) (hσ : t.IsCurrent a σ) :
    t.scopes.isAborted σ = false := by
  obtain ⟨e, he, rfl⟩ := hσ
  exact ht.scopes.live he

lemma IsCurrent.unique {τ : ℕ} (hσ : t.IsCurrent a σ) (hτ : t.IsCurrent a τ) : σ = τ := by
  obtain ⟨e, he, rfl⟩ := hσ
  obtain ⟨e', he', rfl⟩ := hτ
  rw [he, Option.some.injEq] at he'
  rw [he']

/-- An account has guards as long as its scope has a signal, and they share it. -/
lemma Sound.isCurrent_iff (ht : t.Sound) :
    t.IsCurrent a σ ↔ ∃ g, t.scopes.guards.get? g = some ⟨a, σ⟩ := by
  constructor
  · intro hσ
    obtain ⟨e, he, -⟩ := id hσ
    have hcard : 0 < (t.scopes.guardsOf a).card := ht.scopes.holders_eq he ▸ ht.scopes.holders_pos he
    obtain ⟨g, hg⟩ := Finset.card_pos.mp hcard
    obtain ⟨⟨b, τ⟩, hguard, rfl⟩ := Scopes.mem_guardsOf.mp hg
    obtain rfl := hσ.unique (ht.scopes.scope_of_guard hguard)
    exact ⟨g, hguard⟩
  · rintro ⟨g, hg⟩
    exact ht.scopes.scope_of_guard hg

/-- A signal that is alive is that of its monitors' account. -/
lemma Sound.isCurrent_of_live (ht : t.Sound) (hm : t.monitors.get? id = some m)
    (hlive : t.scopes.isAborted m.signal = false) : t.IsCurrent m.account m.signal := by
  rcases ht.belongs hm with haborted | hcurrent
  · rw [hlive] at haborted
    cases haborted
  · exact hcurrent

/-- A monitor that watches a submission of an account has the signal of its scope. -/
lemma Sound.signal_of_watches (ht : t.Sound) (hσ : t.IsCurrent a σ) (hm : t.Watches id m)
    (haccount : m.account = a) : m.signal = σ :=
  (haccount ▸ ht.isCurrent_of_live hm.found hm.live).unique hσ

/-- The account of a monitor has guards as long as the monitor's signal is alive. -/
lemma Sound.guardsOf_nonempty_of_live (ht : t.Sound) (hm : t.monitors.get? id = some m)
    (hlive : t.scopes.isAborted m.signal = false) : (t.scopes.guardsOf m.account).Nonempty := by
  obtain ⟨g, hg⟩ := ht.isCurrent_iff.mp (ht.isCurrent_of_live hm hlive)
  exact ⟨g, Scopes.mem_guardsOf.mpr ⟨_, hg, rfl⟩⟩

/-- Once the last guard of an account is gone, all its monitors are aborted. -/
lemma Sound.isAborted_of_unguarded (ht : t.Sound) (hm : t.monitors.get? id = some m)
    (hnone : t.scopes.guardsOf m.account = ∅) : t.scopes.isAborted m.signal = true := by
  by_contra hlive
  rw [Bool.not_eq_true] at hlive
  have hguarded := ht.guardsOf_nonempty_of_live hm hlive
  rw [hnone] at hguarded
  exact Finset.not_nonempty_empty hguarded

/-- A submission stays watched when a guard is released, if its account has others. -/
lemma Sound.watched_release (ht : t.Sound) {g : ℕ} (hw : t.Watched σ (a, h))
    (hleft : ((t.release g).scopes.guardsOf a).Nonempty) : (t.release g).Watched σ (a, h) := by
  obtain ⟨id, m, hm, hkey, rfl⟩ := hw
  obtain ⟨rfl, rfl⟩ : m.account = a ∧ m.hash = h := Prod.mk.inj hkey
  obtain ⟨k, hk⟩ := hleft
  obtain ⟨⟨b, τ⟩, hguard, rfl⟩ := Scopes.mem_guardsOf.mp hk
  -- the guard that is left was there before, so its signal is that of the monitor
  have hbefore : t.scopes.guards.get? k = some ⟨m.account, τ⟩ := by
    have hguard' : (t.scopes.release g).guards.get? k = some ⟨m.account, τ⟩ := hguard
    rw [Scopes.get?_release_guards] at hguard'
    split at hguard'
    · cases hguard'
    · exact hguard'
  have hτ : m.signal = τ := ht.signal_of_watches (ht.scopes.scope_of_guard hbefore) hm rfl
  have hlive : (t.release g).scopes.isAborted τ = false :=
    (ht.release g).live_of_isCurrent ((ht.release g).scopes.scope_of_guard hguard)
  exact ⟨id, m, ⟨hm.found, hm.running, hτ ▸ hlive⟩, rfl, rfl⟩

/-- Starting monitors does not stop those that watch. -/
lemma Starts.watched {b : Account} {τ : ℕ} {hs : List TransactionHash} {k : Account × TransactionHash}
    (hstarts : Starts t b τ hs t') (ht : t.Sound) (hw : t.Watched σ k) : t'.Watched σ k := by
  obtain ⟨id, m, hm, hkey, hσ⟩ := hw
  refine ⟨id, m, ⟨?_, hm.running, ?_⟩, hkey, hσ⟩
  · rw [hstarts.kept (ht.monitor_lt hm.found), hm.found]
  · rw [hstarts.scopes, hm.live]

/-- Once a monitor was to be started for a submission, there is one. -/
lemma Sound.start_watches (ht : t.Sound) (hσ : t.IsCurrent a σ) (h : TransactionHash) :
    (t.start a h σ).2.Watched σ (a, h) := by
  rcases start_cases t a h σ with ⟨-, hstart⟩ | ⟨hfree, hstart⟩ <;> rw [hstart]
  · refine ⟨t.nextMonitor, .fresh a h σ t.nextClaim, ⟨?_, rfl, ht.live_of_isCurrent hσ⟩, rfl, rfl⟩
    rw [get?_started_monitors, if_pos rfl]
  · -- the owner of the claim watches, and its signal is that of the scope
    rw [← Bool.not_eq_true, isFree_eq_true_iff] at hfree
    push Not at hfree
    obtain ⟨c, hc, hlive⟩ := hfree
    rw [← Bool.eq_false_iff] at hlive
    obtain ⟨id, m, hm, hrunning, hkey, rfl⟩ := ht.owner hc
    exact ⟨id, m, ⟨hm, hrunning, hlive⟩, hkey,
      ht.signal_of_watches hσ ⟨hm, hrunning, hlive⟩ (congrArg Prod.fst hkey)⟩

lemma Sound.startAll_watches {hs : List TransactionHash} (ht : t.Sound) (hσ : t.IsCurrent a σ)
    (hmem : h ∈ hs) : (t.startAll a σ hs).2.Watched σ (a, h) := by
  induction hs generalizing t with
  | nil => cases hmem
  | cons h' r ih =>
      have ht' : (t.start a h' σ).2.Sound := ht.start hσ
      have hσ' : (t.start a h' σ).2.IsCurrent a σ := by
        rwa [IsCurrent, (start_starts t a h' σ).scopes]
      rcases List.mem_cons.mp hmem with rfl | hmem
      · exact (startAll_starts a σ r _).watched ht' (ht.start_watches hσ h)
      · exact ih ht' hσ' hmem

/-- Once a submission was recorded under a guard and its monitor was to be started, there is one. -/
lemma Sound.watches_of_record (ht : t.Sound) {g : ℕ} {guard : Guard} {now : ClockTime}
    (hg : t.scopes.guards.get? g = some guard) (hr : t.record guard.account h now = .ok t') :
    (t'.start guard.account h guard.signal).2.Watched guard.signal (guard.account, h) := by
  refine (ht.record hr).start_watches ?_ h
  rw [IsCurrent, record_scopes hr]
  exact ht.scopes.scope_of_guard hg

/-- What has come about once a submission was added under a guard. -/
structure Adds (t : Tracker) (guard : Guard) (h : TransactionHash) (started : Option ℕ) (t' : Tracker) :
    Prop where
  stored : ∃ ss, t'.store.contents guard.account = .ok ss ∧ h ∈ hashes ss
  others : ∀ {b}, b ≠ guard.account → t'.store.contents b = t.store.contents b
  watched : t'.Watched guard.signal (guard.account, h)
  fresh : ∀ {i}, started = some i →
    ∃ c, t'.monitors.get? i = some (.fresh guard.account h guard.signal c)

/-- Recording a submission leaves it stored, and concerns its own account only. -/
lemma record_contents {now : ClockTime} (hr : t.record a h now = .ok t') :
    (∃ ss, t'.store.contents a = .ok ss ∧ h ∈ hashes ss) ∧
      ∀ {b}, b ≠ a → t'.store.contents b = t.store.contents b := by
  rcases record_cases hr with ⟨ss, hload, hmem, rfl⟩ | ⟨ss, store, hload, hnew, hsave, rfl⟩
  · exact ⟨⟨ss, SubmissionStore.contents_of_load hload, hmem⟩, fun _ => rfl⟩
  · refine ⟨⟨ss ++ [.fresh h now], ?_, by simp [hashes, Submission.fresh]⟩, fun {b} hb => ?_⟩
    · rw [(Changes.added now hnew).contents_save hload hsave, if_pos rfl]
    · rw [(Changes.added now hnew).contents_save hload hsave, if_neg (Ne.symm hb)]

/-- Where adding a submission succeeds, all of this has come about. -/
lemma Sound.adds (ht : t.Sound) {g : ℕ} {guard : Guard} {now : ClockTime} {started : Option ℕ}
    (hg : t.scopes.guards.get? g = some guard) (hadd : t.add guard h now = .ok (started, t')) :
    t.Adds guard h started t' := by
  rw [Tracker.add] at hadd
  split at hadd
  · cases hadd
  · rename_i t₁ hr
    have hstore := (start_starts t₁ guard.account h guard.signal).store
    obtain ⟨hstored, hothers⟩ := record_contents hr
    have hwatched := ht.watches_of_record hg hr
    have hstart : t₁.start guard.account h guard.signal = (started, t') := Except.ok.inj hadd
    rw [hstart] at hstore hwatched
    refine ⟨hstore ▸ hstored, fun hb => hstore ▸ hothers hb, hwatched, fun {i} hi => ?_⟩
    rcases start_cases t₁ guard.account h guard.signal with ⟨-, heq⟩ | ⟨-, heq⟩ <;>
      rw [hstart, Prod.mk.injEq, hi] at heq
    · obtain ⟨hid, rfl⟩ := heq
      cases hid
      exact ⟨t₁.nextClaim, by rw [get?_started_monitors, if_pos rfl]⟩
    · cases heq.1

/-! ### One submission -/

/-- What holds of a pending submission: a running monitor with the registered claim watches it under the
signal, or the last monitor that was started for it under this signal has ended with an excuse or was
killed by one of the given events. -/
inductive Attends (ys : List TrackerAction) (t : Tracker) (σ : ℕ) (k : Account × TransactionHash) :
    Prop where
  | watched {id : ℕ} {m : Monitor} (hm : t.Watches id m) (hkey : m.key = k) (hσ : m.signal = σ)
      (hclaim : t.claims.get? k = some ⟨m.claim, σ⟩)
  | excused {id : ℕ} {m : Monitor} {how : MonitorEnd} (hm : t.monitors.get? id = some m)
      (hkey : m.key = k) (hσ : m.signal = σ)
      (hlast : ∀ j n, t.monitors.get? j = some n → n.key = k → n.signal = σ → j ≤ id)
      (hphase : m.phase = .ended how)
      (hexcuse : Excuses t.settings m how ∨ how = .killed ∧ .kill id ∈ ys)

lemma Sound.attends_of_watched (ht : t.Sound) {k : Account × TransactionHash}
    (hw : t.Watched σ k) : t.Attends ys σ k := by
  obtain ⟨id, m, hm, rfl, rfl⟩ := hw
  exact .watched hm rfl rfl (ht.claim_of_watches hm)

lemma act_settings (hact : t.act x = some t') : t'.settings = t.settings := by
  cases x with
  | acquire a =>
      cases hact
      rfl
  | release g =>
      obtain ⟨-, -, rfl⟩ := Option.map_eq_some_iff.mp hact
      rfl
  | init g =>
      obtain ⟨guard, -, rfl⟩ := Option.map_eq_some_iff.mp hact
      rcases init_cases t guard with heq | ⟨ss, -, heq⟩ <;> rw [heq]
      exact (startAll_starts _ _ _ t).settings
  | add g hash now =>
      obtain ⟨guard, -, rfl⟩ := Option.map_eq_some_iff.mp hact
      rcases add_cases t guard hash now with heq | ⟨t₁, hr, heq⟩ <;> rw [heq]
      rw [(start_starts t₁ _ _ _).settings]
      rcases record_cases hr with ⟨ss, -, -, rfl⟩ | ⟨ss, store, -, -, -, rfl⟩ <;> rfl
  | step id event =>
      obtain ⟨m, t₁, m', -, hturn, rfl⟩ := step_cases hact
      exact hturn.writes.settings
  | kill id =>
      obtain ⟨m, -, -, rfl⟩ := kill_cases hact
      rfl
  | upset load save reload =>
      cases hact
      rfl

/-- If nobody watches a submission after an event, no monitor has been started for it. -/
lemma exists_old_monitor (hact : t.act x = some t') (hlive : t'.scopes.isAborted σ = false)
    {k : Account × TransactionHash} (hnot : ¬ t'.Watched σ k) (hm : t'.monitors.get? id = some m')
    (hkey : m'.key = k) (hσ : m'.signal = σ) :
    ∃ m, t.monitors.get? id = some m ∧ m.key = k ∧ m.signal = σ := by
  cases act_becomes hact hm with
  | kept hm₀ _ => exact ⟨m', hm₀, hkey, hσ⟩
  | started _ _ _ hash c =>
      have hlive' : t'.scopes.isAborted (Monitor.fresh _ hash _ c).signal = false := hσ ▸ hlive
      exact absurd ⟨id, _, ⟨hm, rfl, hlive'⟩, hkey, hσ⟩ hnot
  | turned hm₀ hturn =>
      exact ⟨_, hm₀, hturn.same.key.symm.trans hkey, hturn.same.signal.symm.trans hσ⟩
  | killed hm₀ _ => exact ⟨_, hm₀, hkey, hσ⟩

/-- A monitor that watches a pending submission goes on watching, or ends with an excuse or because it is
killed. -/
lemma Steady.excuse_of_watches (ht : t.Steady) (hact : t.act x = some t') (hm : t.Watches id m)
    (hlive : t'.scopes.isAborted m.signal = false) {ss : List Submission}
    (hss : t'.store.contents m.account = .ok ss) (hmem : m.hash ∈ pending ss) :
    t'.Watches id m ∨ ∃ m', t'.monitors.get? id = some m' ∧ m.Same m' ∧
      (t'.Watches id m' ∨ ∃ how, m'.phase = .ended how ∧
        (Excuses t'.settings m' how ∨ how = .killed ∧ x = .kill id)) := by
  by_cases hstep : ∃ event, x = .step id event
  · right
    obtain ⟨event, rfl⟩ := hstep
    obtain ⟨t₁, m', hturn, rfl⟩ := turns_of_step hm.found hact
    have hfound : (t₁.place id m').monitors.get? id = some m' := by
      rw [get?_place_monitors, if_pos rfl]
    have hsame := hturn.same
    refine ⟨m', hfound, hsame, ?_⟩
    cases hrunning : m'.isRunning with
    | true => exact .inl ⟨hfound, hrunning, hsame.signal.symm ▸ hlive⟩
    | false =>
        obtain ⟨how, hphase⟩ := Monitor.isRunning_eq_false_iff.mp hrunning
        have hfits := hturn.fits hm.live (ht.inStep hm)
        have hd := hturn.writes.distinct ht.distinct
        have hss' : t₁.store.contents m'.account = .ok ss := hsame.account.symm ▸ hss
        exact .inr ⟨how, hphase, .inl (hfits.attends hd hss' (hsame.hash.symm ▸ hmem) hphase)⟩
  · by_cases hkill : x = .kill id
    · right
      subst hkill
      obtain ⟨-, rfl⟩ := running_of_kill hm.found hact
      refine ⟨m.finish .killed, ?_, m.same_finish _, .inr ⟨.killed, rfl, .inr ⟨rfl, rfl⟩⟩⟩
      rw [get?_place_monitors, if_pos rfl]
    · left
      have hkept := act_kept hact (ht.sound.monitor_lt hm.found)
        (fun event he => hstep ⟨event, he⟩) hkill
      exact ⟨hkept.trans hm.found, hm.running, hlive⟩

/-- A monitor that has ended stays what it is. -/
lemma Sound.ended_kept (ht : t.Sound) (hact : t.act x = some t')
    (hm : t.monitors.get? id = some m) {how : MonitorEnd} (hphase : m.phase = .ended how) :
    t'.monitors.get? id = some m := by
  have hrunning : m.isRunning ≠ true := by
    rw [Ne, Bool.not_eq_true, Monitor.isRunning_eq_false_iff]
    exact ⟨how, hphase⟩
  rw [act_kept hact (ht.monitor_lt hm) ?_ ?_, hm]
  · rintro event rfl
    obtain ⟨t₁, m', hturn, -⟩ := turns_of_step hm hact
    exact hrunning hturn.isRunning
  · rintro rfl
    exact hrunning (running_of_kill hm hact).1

/-- As long as a submission is pending and the signal is alive, no event leaves it alone. -/
lemma Attends.act (hat : t.Attends ys σ (a, h)) (ht : t.Steady) (hact : t.act x = some t')
    (hx : x ∈ ys) (hlive : t'.scopes.isAborted σ = false) {ss : List Submission}
    (hss : t'.store.contents a = .ok ss) (hmem : h ∈ pending ss) : t'.Attends ys σ (a, h) := by
  by_cases hw : t'.Watched σ (a, h)
  · exact (ht.act hact).sound.attends_of_watched hw
  · cases hat with
    | @watched id m hm hkey hσ _ =>
        obtain ⟨rfl, rfl⟩ : m.account = a ∧ m.hash = h := Prod.mk.inj hkey
        subst hσ
        -- those that are there now were there before, and none of them later than this one
        have hlast : ∀ j n, t'.monitors.get? j = some n → n.key = m.key → n.signal = m.signal →
            j ≤ id := by
          intro j n hj hjkey hjσ
          obtain ⟨n₀, hn₀, hn₀key, -⟩ := exists_old_monitor hact hlive hw hj hjkey hjσ
          exact ht.sound.latest hm.found hm.running hm.live hn₀ hn₀key
        rcases ht.excuse_of_watches hact hm hlive hss hmem with
          hm' | ⟨m', hm', hsame, hwatches | ⟨how, hphase, hexcuse⟩⟩
        · exact absurd ⟨id, m, hm', rfl, rfl⟩ hw
        · exact absurd ⟨id, m', hwatches, hsame.key, hsame.signal⟩ hw
        · refine .excused hm' hsame.key hsame.signal hlast hphase (hexcuse.imp_right ?_)
          rintro ⟨rfl, rfl⟩
          exact ⟨rfl, hx⟩
    | @excused id m how hm hkey hσ hlast hphase hexcuse =>
        refine .excused (ht.sound.ended_kept hact hm hphase) hkey hσ ?_ hphase ?_
        · intro j n hj hjkey hjσ
          obtain ⟨n₀, hn₀, hn₀key, hn₀σ⟩ := exists_old_monitor hact hlive hw hj hjkey hjσ
          exact hlast j n₀ hn₀ hn₀key hn₀σ
        · rw [act_settings hact]
          exact hexcuse

/-! ### All submissions of an account -/

/-- Every pending submission of an account is attended under the signal of its scope. -/
structure Attended (ys : List TrackerAction) (t : Tracker) (σ : ℕ) (a : Account) : Prop where
  current : t.IsCurrent a σ
  attends : ∀ {ss h}, t.store.contents a = .ok ss → h ∈ pending ss → t.Attends ys σ (a, h)

/-- What is pending after an event is attended: it was pending before, or it was just added. -/
lemma Attended.attends_act (hat : t.Attended ys σ a) (ht : t.Steady) (hact : t.act x = some t')
    (hx : x ∈ ys) (hlive : t'.scopes.isAborted σ = false) {ss' : List Submission}
    (hss' : t'.store.contents a = .ok ss') (hmem : h ∈ pending ss') : t'.Attends ys σ (a, h) := by
  by_cases heq : t'.store.contents a = t.store.contents a
  · exact (hat.attends (heq ▸ hss') hmem).act ht hact hx hlive hss' hmem
  · rcases act_contents hact a with hsame | ⟨haccount, ss, ss₁, hss, hss₁, hw⟩
    · exact absurd hsame heq
    · rw [hss', Except.ok.injEq] at hss₁
      subst hss₁
      rcases hw.pending hmem with hold | ⟨g, now, rfl⟩
      · exact (hat.attends hss hold).act ht hact hx hlive hss' hmem
      · obtain ⟨guard, hg, rfl⟩ := Option.map_eq_some_iff.mp haccount
        obtain ⟨guard', hg', rfl⟩ := Option.map_eq_some_iff.mp hact
        obtain rfl : guard = guard' := Option.some.inj (hg.symm.trans hg')
        rcases add_cases t guard h now with hfailed | ⟨t₁, hr, hstarted⟩
        · exact absurd (by rw [hfailed]) heq
        · have hsound := ht.sound.add hg h now
          rw [hstarted] at hsound ⊢
          -- the guard that is alive shares the signal of the scope
          have hcurrent : t.IsCurrent guard.account guard.signal := ht.sound.scopes.scope_of_guard hg
          obtain rfl := hcurrent.unique hat.current
          exact hsound.attends_of_watched (ht.sound.watches_of_record hg hr)

/-- An account's pending submissions are attended until its signal is aborted. -/
lemma Attended.act (hat : t.Attended ys σ a) (ht : t.Steady) (hact : t.act x = some t')
    (hx : x ∈ ys) : t'.scopes.isAborted σ = true ∨ t'.Attended ys σ a := by
  cases hlive : t'.scopes.isAborted σ with
  | true => exact .inl rfl
  | false =>
      right
      refine ⟨?_, fun hss hmem => hat.attends_act ht hact hx hlive hss hmem⟩
      obtain ⟨e, he, rfl⟩ := hat.current
      rcases (ht.sound.act_follows hact).signal he with haborted | hcurrent
      · rw [hlive] at haborted
        cases haborted
      · exact hcurrent

/-! ### Runs -/

/-- Resuming the monitoring of an account loads its list and starts monitors for what is pending. -/
lemma init_eq_ok {guard : Guard} {ms : List ℕ} (hinit : t.init guard = .ok (ms, t')) :
    ∃ ss, t.store.load guard.account = .ok ss ∧
      t.startAll guard.account guard.signal (pending ss) = (ms, t') := by
  rw [Tracker.init] at hinit
  split at hinit
  · cases hinit
  · rename_i ss hload
    exact ⟨ss, hload, Except.ok.inj hinit⟩

/-- Right after its monitoring was resumed, all of an account's pending submissions are watched. -/
lemma Sound.init_watches (ht : t.Sound) {g : ℕ} {ms : List ℕ}
    (hg : t.scopes.guards.get? g = some ⟨a, σ⟩) (hinit : t.init ⟨a, σ⟩ = .ok (ms, t')) :
    t'.IsCurrent a σ ∧
      ∀ {ss}, t'.store.contents a = .ok ss → ∀ {h}, h ∈ pending ss → t'.Watched σ (a, h) := by
  obtain ⟨ss, hload, hstart⟩ := init_eq_ok hinit
  obtain rfl : (t.startAll a σ (pending ss)).2 = t' := congrArg Prod.snd hstart
  have hstarts := startAll_starts a σ (pending ss) t
  have hcurrent : t.IsCurrent a σ := ht.scopes.scope_of_guard hg
  refine ⟨?_, fun {ss'} hss' {h} hmem => ht.startAll_watches hcurrent ?_⟩
  · rwa [IsCurrent, hstarts.scopes]
  · rw [hstarts.store, SubmissionStore.contents_of_load hload, Except.ok.injEq] at hss'
    exact hss' ▸ hmem

lemma Steady.init_watches (ht : t.Steady) {g : ℕ} {ms : List ℕ}
    (hg : t.scopes.guards.get? g = some ⟨a, σ⟩) (hinit : t.init ⟨a, σ⟩ = .ok (ms, t')) :
    t.act (.init g) = some t' ∧ t'.IsCurrent a σ ∧
      ∀ {ss}, t'.store.contents a = .ok ss → ∀ {h}, h ∈ pending ss → t'.Watched σ (a, h) :=
  ⟨act_init hg hinit, ht.sound.init_watches hg hinit⟩

/-- A monitor that is there once monitoring was resumed was there before, or it is one of those that were
started. -/
lemma Sound.init_fresh (ht : t.Sound) {guard : Guard} {ms : List ℕ} (hinit : t.init guard = .ok (ms, t'))
    (hm : t'.monitors.get? id = some m) : t.monitors.get? id = some m ∨ id ∈ ms := by
  obtain ⟨ss, -, hstart⟩ := init_eq_ok hinit
  obtain ⟨rfl, rfl⟩ := Prod.mk.inj hstart
  cases hold : t.monitors.get? id with
  | none => exact .inr (mem_startAll hm hold)
  | some n =>
      left
      rwa [(startAll_starts _ _ _ t).kept (ht.monitor_lt hold), hold] at hm

/-- Once the monitoring of an account was resumed, all its pending submissions are watched. As long as
guards of the same scope are alive they stay watched, each by a running monitor with the registered claim,
unless the last monitor that was started for it has ended because the node, the verification service or
the store failed, because its polls were used up or do not fit their word any more, or because it was
killed in the meantime. -/
theorem pending_submissions_are_watched {settings : TrackerSettings} {store : SubmissionStore}
    {xs ys : List TrackerAction} {t₀ t₁ t : Tracker} {g g' : ℕ} {ms : List ℕ}
    (hstore : store.AllDistinct) (h₀ : (Tracker.empty settings store).run xs = some t₀)
    (hg : t₀.scopes.guards.get? g = some ⟨a, σ⟩) (hinit : t₀.init ⟨a, σ⟩ = .ok (ms, t₁))
    (h₁ : t₁.run ys = some t) (hg' : t.scopes.guards.get? g' = some ⟨a, σ⟩) :
    (∀ ss s, t₁.store.contents a = .ok ss → s ∈ ss → s.status.isFinal = false →
      ∃ i m, t₁.Watches i m ∧ m.key = (a, s.hash) ∧ m.signal = σ ∧
        t₁.claims.get? m.key = some ⟨m.claim, σ⟩) ∧
    ∀ ss s, t.store.contents a = .ok ss → s ∈ ss → s.status.isFinal = false →
      t.Attends ys σ (a, s.hash) := by
  have hpending : ∀ {ss : List Submission} {s : Submission}, s ∈ ss → s.status.isFinal = false →
      s.hash ∈ pending ss := by
    intro ss s hs hfinal
    exact List.mem_map_of_mem (List.mem_filter.mpr ⟨hs, by rw [hfinal]; rfl⟩)
  have ht₀ : t₀.Steady := run_steady h₀ (.empty hstore)
  obtain ⟨hact, hcurrent, hwatches⟩ := ht₀.init_watches hg hinit
  have ht₁ : t₁.Steady := ht₀.act hact
  refine ⟨fun ss s hss hs hfinal => ?_, ?_⟩
  · obtain ⟨i, m, hm, hkey, rfl⟩ := hwatches hss (hpending hs hfinal)
    exact ⟨i, m, hm, hkey, rfl, ht₁.sound.claim_of_watches hm⟩
  have hstart : t₁.Attended ys σ a :=
    ⟨hcurrent, fun hss hmem => ht₁.sound.attends_of_watched (hwatches hss hmem)⟩
  obtain ⟨ht, haborted | hat⟩ := run_induction
    (P := fun u => u.Steady ∧ (u.scopes.isAborted σ = true ∨ u.Attended ys σ a))
    (fun hx hact hu => ⟨hu.1.act hact, hu.2.elim
      (fun haborted => .inl ((hu.1.sound.act_follows hact).aborted haborted))
      (fun hat => hat.act hu.1 hact hx)⟩) h₁ ⟨ht₁, .inr hstart⟩
  · have hcurrent' : t.IsCurrent a σ := ht.sound.scopes.scope_of_guard hg'
    rw [ht.sound.live_of_isCurrent hcurrent'] at haborted
    cases haborted
  · exact fun ss s hss hs hfinal => hat.attends hss (hpending hs hfinal)

/-- The only guard goes and comes back before the old monitor has gone on. -/
theorem pending_submissions_are_watched_of_remount :
    ∃ t₀ t₁ t, (Tracker.empty ⟨10, none⟩ .ofLists).run
        [.acquire ⟨.replicate 1⟩, .add 0 ⟨.replicate 2⟩ .epoch, .step 0 .start, .release 0,
          .acquire ⟨.replicate 1⟩] = some t₀ ∧
      t₀.init ⟨⟨.replicate 1⟩, 1⟩ = .ok ([1], t₁) ∧
      t₁.run [.step 0 (.finalized (.ok .success)), .step 1 .start] = some t ∧
      t.store.contents ⟨.replicate 1⟩ = .ok [⟨⟨.replicate 2⟩, .committed, .epoch⟩] ∧
      t.Attends [.step 0 (.finalized (.ok .success)), .step 1 .start] 1
        (⟨.replicate 1⟩, ⟨.replicate 2⟩) := by
  refine ⟨_, _, _, rfl, rfl, rfl, by decide, ?_⟩
  have hwatched := (@pending_submissions_are_watched 1 ⟨.replicate 1⟩ ⟨10, none⟩ .ofLists
    [.acquire ⟨.replicate 1⟩, .add 0 ⟨.replicate 2⟩ .epoch, .step 0 .start, .release 0,
      .acquire ⟨.replicate 1⟩]
    [.step 0 (.finalized (.ok .success)), .step 1 .start] _ _ _ 1 1 [1]
    SubmissionStore.allDistinct_ofLists rfl (by decide) rfl rfl (by decide)).2
  exact hwatched [⟨⟨.replicate 2⟩, .committed, .epoch⟩] ⟨⟨.replicate 2⟩, .committed, .epoch⟩
    (by decide) (by decide) rfl

/-- The guard is alive, the monitoring was resumed under it, there is no budget, and nothing has failed. Once
its monitor has been told nothing as often as its word can count, the approved ballot is left alone. -/
theorem approved_ballot_is_left_alone :
    ∃ t₀ t₁ t, (Tracker.empty ⟨10, none⟩ .ofLists).run
        [.acquire ⟨.replicate 1⟩, .add 0 ⟨.replicate 2⟩ .epoch, .step 0 .start,
          .step 0 (.finalized (.ok .success))] = some t₀ ∧
      t₀.init ⟨⟨.replicate 1⟩, 0⟩ = .ok ([], t₁) ∧ t₁.run (silence 0 Numeral.max32) = some t ∧
      t.scopes.guards.get? 0 = some ⟨⟨.replicate 1⟩, 0⟩ ∧
      t.store.contents ⟨.replicate 1⟩ = .ok [⟨⟨.replicate 2⟩, .approved, .epoch⟩] ∧
      (∀ i m, t.monitors.get? i = some m → m.phase = .ended .brokeDown) ∧
      ¬ t.Watched 0 (⟨.replicate 1⟩, ⟨.replicate 2⟩) := by
  obtain ⟨t₀, t₁, m, h₀, hinit, hpolls, hguard, hcontents, honly⟩ :
      ∃ t₀ t₁ m, (Tracker.empty ⟨10, none⟩ .ofLists).run
          [.acquire ⟨.replicate 1⟩, .add 0 ⟨.replicate 2⟩ .epoch, .step 0 .start,
            .step 0 (.finalized (.ok .success))] = some t₀ ∧
        t₀.init ⟨⟨.replicate 1⟩, 0⟩ = .ok ([], t₁) ∧ t₁.AwaitsPoll 0 m 1 ∧
        t₁.scopes.guards.get? 0 = some ⟨⟨.replicate 1⟩, 0⟩ ∧
        t₁.store.contents ⟨.replicate 1⟩ = .ok [⟨⟨.replicate 2⟩, .approved, .epoch⟩] ∧
        t₁.monitors.keys = [0] :=
    ⟨_, _, _, rfl, rfl, ⟨rfl, ⟨1, rfl, rfl⟩, by decide, rfl⟩, by decide, by decide, by decide⟩
  obtain ⟨t, m', hrun, haside, hm', -, hphase, -⟩ := hpolls.run_overrun (Nat.add_comm 1 Numeral.max32)
  have hended : ∀ i n, t.monitors.get? i = some n → n.phase = .ended .brokeDown := by
    intro i n hn
    by_cases hi : i = 0
    · subst hi
      obtain rfl := Option.some.inj (hm'.symm.trans hn)
      exact hphase
    · rw [haside.others hi] at hn
      have hkey := Table.mem_keys_of_get? hn
      rw [honly] at hkey
      exact absurd (List.mem_singleton.mp hkey) hi
  refine ⟨t₀, t₁, t, h₀, hinit, hrun, haside.scopes ▸ hguard, haside.store ▸ hcontents, hended, ?_⟩
  rintro ⟨i, n, hn, -, -⟩
  have hrunning := hn.running
  rw [Monitor.isRunning, hended i n hn.found] at hrunning
  cases hrunning

end ChainElection.Tracker
