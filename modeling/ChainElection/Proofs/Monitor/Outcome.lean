import Mathlib.Tactic
import ChainElection.Proofs.Monitor.Fate

/-!
The outcome does not depend on the schedule.

Every monitor loads and writes the whole list of its account, in whatever order
the monitors take their turns. What becomes of a submission depends on its own
fate alone, and what its monitor does concerns no other submission.

* `Submission.restamp` is a list with other statuses; `Goes.eq_restamp`: moving
  one submission changes one of them.
* `Tracker.Conducts` is the invariant: every submission that was pending has its
  monitor, which is on its way. `Conducts.turn` keeps it when one of these goes
  on, `Conducts.aside` when something else happens.
* `outcome_of_every_schedule` compares two runs. In
  `late_verdict_is_never_heard` a submission is kept waiting for more polls than
  can be counted, and does not come to its destination.
-/

namespace ChainElection

/-! ### Lists with other statuses -/

namespace Submission

variable {st : TransactionHash → SubmissionStatus} {ss ss' : List Submission} {s : Submission}
  {h : TransactionHash}

/-- The list with the status of every submission given by its hash. -/
def restamp (st : TransactionHash → SubmissionStatus) (ss : List Submission) : List Submission :=
  ss.map fun s => { s with status := st s.hash }

lemma hashes_restamp (st : TransactionHash → SubmissionStatus) (ss : List Submission) :
    hashes (restamp st ss) = hashes ss := by
  simp [hashes, restamp]

lemma restamp_restamp (st st' : TransactionHash → SubmissionStatus) (ss : List Submission) :
    restamp st' (restamp st ss) = restamp st' ss := by
  simp [restamp]

lemma restamp_congr {st' : TransactionHash → SubmissionStatus} (h : ∀ s ∈ ss, st s.hash = st' s.hash) :
    restamp st ss = restamp st' ss :=
  List.map_congr_left fun s hs => by rw [h s hs]

/-- A list whose statuses are the given ones already stays what it is. -/
lemma restamp_eq_self (h : ∀ s ∈ ss, s.status = st s.hash) : restamp st ss = ss := by
  refine (List.map_congr_left fun s hs => ?_).trans (List.map_id ss)
  rw [← h s hs, id_eq]

lemma status_of_mem_restamp (h : s ∈ restamp st ss) : s.status = st s.hash := by
  obtain ⟨s, -, rfl⟩ := List.mem_map.mp h
  rfl

lemma statusIn_restamp (hs : s ∈ ss) : statusIn (restamp st ss) s.hash = some (st s.hash) := by
  induction ss with
  | nil => cases hs
  | cons s' r ih =>
      by_cases heq : s'.hash = s.hash
      · rw [← heq]
        exact statusIn_cons_self { s' with status := st s'.hash } (restamp st r)
      · have hne : ({ s' with status := st s'.hash } : Submission).hash ≠ s.hash := heq
        have hmem : s ∈ r := by
          rcases List.mem_cons.mp hs with rfl | hmem
          · exact absurd rfl heq
          · exact hmem
        exact (statusIn_cons_of_ne hne _).trans (ih hmem)

/-- In a list of distinct hashes the status of an entry is that of every entry of its hash. -/
lemma Distinct.status_eq (hd : Distinct ss) {s' : Submission} (hs : s ∈ ss) (hs' : s' ∈ ss)
    (hash : s.hash = s'.hash) : s.status = s'.status := by
  have hstatus := statusIn_of_mem hd hs
  rw [hash, statusIn_of_mem hd hs'] at hstatus
  exact (Option.some.inj hstatus).symm

end Submission

namespace Tracker

open Submission

variable {t t' : Tracker} {m m' : Monitor} {event : MonitorEvent} {id σ : ℕ} {x : TrackerAction}
  {a : Account} {ss : List Submission} {w : TransactionHash → Fate}
  {mon : TransactionHash → ℕ} {st : TransactionHash → SubmissionStatus}

/-- A submission that goes to a status takes no other one with it. -/
lemma Goes.eq_restamp {h : TransactionHash} {next : SubmissionStatus} {ss' : List Submission}
    (hd : Distinct ss) (hgoes : Goes h (st h) next (restamp st ss) ss') :
    ss' = restamp (Function.update st h next) ss := by
  rcases hgoes with ⟨rfl, rfl⟩ | hmove
  · rw [Function.update_eq_self]
  · obtain ⟨pre, s, post, hss, hash, hpre, -, rfl⟩ := moveFirst_cases hmove
    have hpost : h ∉ hashes post := by
      rw [Distinct, ← hashes_restamp st, hss, hashes_append, hashes_cons, hash] at hd
      exact (List.nodup_cons.mp (List.nodup_append.mp hd).2.1).1
    -- all but the one that was moved keep their status
    have hkept : ∀ {l : List Submission}, h ∉ hashes l → (∀ s ∈ l, s ∈ restamp st ss) →
        restamp (Function.update st h next) l = l := by
      intro l hnot hl
      refine restamp_eq_self fun s hs => ?_
      have hne : s.hash ≠ h := fun heq => hnot (heq ▸ List.mem_map_of_mem hs)
      rw [Function.update_of_ne hne, status_of_mem_restamp (hl s hs)]
    have hleft := hkept hpre fun s hs => hss ▸ List.mem_append_left _ hs
    have hright := hkept hpost fun s hs =>
      hss ▸ List.mem_append_right pre (List.mem_cons_of_mem _ hs)
    rw [← restamp_restamp st, hss, restamp, List.map_append, List.map_cons, ← restamp, ← restamp,
      hleft, hright, hash, Function.update_self]

/-! ### Runs of monitors that get what is in store for them -/

/-- What may happen while the monitors of a signal go their ways: they and others go on, guards come and
go, and other accounts start monitors, add submissions and end monitors. Nothing else is done for the
account, the store keeps in order, and the monitors get what is in store for them. -/
def Allows (w : TransactionHash → Fate) (a : Account) (σ : ℕ) (t : Tracker) : TrackerAction → Prop
  | .acquire _ | .release _ => True
  | .init g | .add g _ _ => ∀ guard, t.scopes.guards.get? g = some guard → guard.account ≠ a
  | .step id event => ∀ m, t.monitors.get? id = some m → m.signal = σ → (w m.hash).Heeds m event
  | .kill id => ∀ m, t.monitors.get? id = some m → m.signal ≠ σ
  | .upset _ _ _ => False

/-- Nothing but this happens in a run. -/
def Bides (w : TransactionHash → Fate) (a : Account) (σ : ℕ) : Tracker → List TrackerAction → Prop
  | _, [] => True
  | t, x :: r => t.Allows w a σ x ∧ ∀ t', t.act x = some t' → Bides w a σ t' r

/-- A step of a monitor that gets what is in store for it may come first. -/
lemma bides_step {r : List TrackerAction} (hm : t.monitors.get? id = some m)
    (hheeds : (w m.hash).Heeds m event) (hact : t.act (.step id event) = some t')
    (hr : t'.Bides w a σ r) : t.Bides w a σ (.step id event :: r) := by
  refine ⟨fun n hn _ => ?_, fun u hu => ?_⟩
  · obtain rfl : m = n := Option.some.inj (hm.symm.trans hn)
    exact hheeds
  · obtain rfl : t' = u := Option.some.inj (hact.symm.trans hu)
    exact hr

/-- A monitor that is told nothing gets what is in store for it, as long as its fate keeps it waiting. -/
lemma bides_silence {k n : ℕ} (hm : t.AwaitsPoll id m k) (hpolls : m.effort.polls = k)
    (hdelay : k + n ≤ (w m.hash).delay + 1) (hroom : k + n ≤ Numeral.max32 + 1) :
    t.Bides w a σ (silence id n) := by
  induction n generalizing t m k with
  | zero => exact trivial
  | succ n ih =>
      have hnull : (w m.hash).Heeds m (.answered (.ok none)) :=
        (Fate.answer_eq_none.mpr (by omega)).symm
      have hrest {t'} (hnaps : t.Naps id m t') (h' : t'.Bides w a σ (silence id n)) :
          t.Bides w a σ (silence id (n + 1)) := by
        obtain ⟨t₁, p, hasleep, hfound, hawake⟩ := hnaps.acts
        exact bides_step hm.found hnull hasleep (bides_step hfound trivial hawake h')
      by_cases hlast : k = Numeral.max32
      · obtain rfl : n = 0 := by omega
        obtain ⟨p, t', -, hnaps, -⟩ := hm.exists_naps
        exact hrest hnaps trivial
      · obtain ⟨t', m', hnaps, hsame, hpolls', hm'⟩ := hm.exists_next (by omega)
        refine hrest hnaps (ih hm' (by omega) ?_ (by omega))
        rw [hsame.hash]
        omega

/-- The monitors of a signal are on their ways: every submission of the account's list that was pending
has its monitor, which has come as far as its status says, the others are what they were, and no other
monitor of the signal is running. -/
structure Conducts (w : TransactionHash → Fate) (ss : List Submission) (mon : TransactionHash → ℕ)
    (a : Account) (σ : ℕ) (st : TransactionHash → SubmissionStatus) (t : Tracker) : Prop where
  current : t.IsCurrent a σ
  unlimited : t.settings.maxPolls = none
  inOrder : t.store.InOrder
  contents : t.store.contents a = .ok (restamp st ss)
  conducted : ∀ {s}, s ∈ ss → s.status.isFinal = false → ∃ m,
    t.monitors.get? (mon s.hash) = some m ∧ m.key = (a, s.hash) ∧ m.signal = σ ∧
      (w s.hash).Along s.status (st s.hash) m
  settled : ∀ {s}, s ∈ ss → s.status.isFinal = true → st s.hash = s.status
  covers : ∀ {id m}, t.monitors.get? id = some m → m.signal = σ → m.isRunning = true →
    ∃ s ∈ ss, s.status.isFinal = false ∧ id = mon s.hash

/-! ### A turn of one of the monitors -/

/-- A turn of one of the monitors takes its own submission on and leaves the others alone. -/
lemma Conducts.turn (hc : t.Conducts w ss mon a σ st) (ht : t.Sound) (hd : Distinct ss)
    (hm : t.monitors.get? id = some m) (hσ : m.signal = σ) (hstep : t.step id event = some t')
    (hheeds : (w m.hash).Heeds m event) : ∃ st', t'.Conducts w ss mon a σ st' := by
  obtain ⟨t₁, m', hturn, rfl⟩ := turns_of_step hm hstep
  obtain ⟨s, hs, hpending, rfl⟩ := hc.covers hm hσ hturn.isRunning
  obtain ⟨n, hn, hkey, -, halong⟩ := hc.conducted hs hpending
  obtain rfl : m = n := Option.some.inj (hm.symm.trans hn)
  obtain ⟨haccount, hash⟩ : m.account = a ∧ m.hash = s.hash := Prod.mk.inj hkey
  have hw := hturn.writes
  have hcontents : t.store.contents m.account = .ok (restamp st ss) := haccount ▸ hc.contents
  have hclear : t.Clear m (st s.hash) :=
    ⟨hσ ▸ ht.live_of_isCurrent hc.current, hc.unlimited, hc.inOrder, _, hcontents,
      by rw [hash]; exact statusIn_restamp hs⟩
  obtain ⟨next, ss', halong', hss', hgoes⟩ :=
    hclear.along_turn halong hturn (hash ▸ hheeds) hcontents
  rw [hash] at hgoes
  have hsame : ∀ {s'}, s' ∈ ss → s'.hash = s.hash → s'.status = s.status :=
    fun hs' heq => hd.status_eq hs' hs heq
  refine ⟨Function.update st s.hash next, ?_, hw.settings ▸ hc.unlimited, hw.inOrder hc.inOrder, ?_,
    ?_, ?_, ?_⟩
  · have hscopes : (t₁.place (mon s.hash) m').scopes = t.scopes := hw.scopes
    rw [IsCurrent, hscopes]
    exact hc.current
  · rw [← hgoes.eq_restamp hd, ← haccount]
    exact hss'
  · intro s' hs' hpending'
    by_cases heq : s'.hash = s.hash
    · rw [heq, hsame hs' heq, Function.update_self]
      refine ⟨m', ?_, hturn.same.key.trans hkey, hturn.same.signal.trans hσ, halong'⟩
      rw [get?_place_monitors, if_pos rfl]
    · obtain ⟨n, hn, hnkey, hnσ, hnalong⟩ := hc.conducted hs' hpending'
      rw [Function.update_of_ne heq]
      refine ⟨n, ?_, hnkey, hnσ, hnalong⟩
      rw [get?_place_monitors, if_neg, hw.monitors, hn]
      -- one monitor has one submission
      intro hmon
      rw [← hmon, hm, Option.some.injEq] at hn
      subst hn
      exact heq (congrArg Prod.snd (hnkey.symm.trans hkey))
  · intro s' hs' hfinal
    rw [Function.update_of_ne, hc.settled hs' hfinal]
    intro heq
    rw [hsame hs' heq, hpending] at hfinal
    cases hfinal
  · intro j n hj hjσ hjrunning
    rw [get?_place_monitors] at hj
    split at hj
    · rename_i hij
      exact ⟨s, hs, hpending, hij.symm⟩
    · exact hc.covers (hw.monitors ▸ hj) hjσ hjrunning

/-! ### Whatever else happens -/

/-- What happens does not concern an account whose signal this is: its list, its monitors and the store's
being in order are what they were. -/
structure LeavesAlone (a : Account) (σ : ℕ) (t t' : Tracker) : Prop where
  settings : t'.settings = t.settings
  inOrder : t.store.InOrder → t'.store.InOrder
  contents : t'.store.contents a = t.store.contents a
  monitors : ∀ {id m}, m.signal = σ → (t'.monitors.get? id = some m ↔ t.monitors.get? id = some m)

lemma Conducts.aside (hc : t.Conducts w ss mon a σ st) (h : LeavesAlone a σ t t')
    (hcurrent : t'.IsCurrent a σ) : t'.Conducts w ss mon a σ st where
  current := hcurrent
  unlimited := h.settings ▸ hc.unlimited
  inOrder := h.inOrder hc.inOrder
  contents := h.contents.trans hc.contents
  conducted := by
    intro s hs hpending
    obtain ⟨m, hm, hkey, hσ, halong⟩ := hc.conducted hs hpending
    exact ⟨m, (h.monitors hσ).mpr hm, hkey, hσ, halong⟩
  settled := hc.settled
  covers := fun hm hσ hrunning => hc.covers ((h.monitors hσ).mp hm) hσ hrunning

/-- A guard of another account has another signal. -/
lemma Sound.signal_ne (ht : t.Sound) (hσ : t.IsCurrent a σ) {g : ℕ} {guard : Guard}
    (hg : t.scopes.guards.get? g = some guard) (hne : guard.account ≠ a) : guard.signal ≠ σ := by
  obtain ⟨e, he, rfl⟩ := hσ
  obtain ⟨e', he', hsignal⟩ := ht.scopes.scope_of_guard hg
  intro heq
  exact hne (ht.scopes.apart he' he (hsignal.trans heq))

lemma act_inOrder (hact : t.act x = some t') (hallow : t.Allows w a σ x) (hstore : t.store.InOrder) :
    t'.store.InOrder := by
  cases x with
  | acquire b =>
      cases hact
      exact hstore
  | release g =>
      obtain ⟨-, -, rfl⟩ := Option.map_eq_some_iff.mp hact
      exact hstore
  | init g =>
      obtain ⟨guard, -, rfl⟩ := Option.map_eq_some_iff.mp hact
      rcases init_cases t guard with heq | ⟨ss, -, heq⟩ <;> rw [heq]
      · exact hstore
      · exact (startAll_starts _ _ _ t).store ▸ hstore
  | add g hash now =>
      obtain ⟨guard, -, rfl⟩ := Option.map_eq_some_iff.mp hact
      rcases add_cases t guard hash now with heq | ⟨t₁, hr, heq⟩ <;> rw [heq]
      · exact hstore
      · rw [(start_starts t₁ _ _ _).store]
        rcases record_cases hr with ⟨ss, -, -, rfl⟩ | ⟨ss, store, -, -, hsave, rfl⟩
        · exact hstore
        · exact hstore.of_save hsave
  | step j event =>
      obtain ⟨m, t₁, m', -, hturn, rfl⟩ := step_cases hact
      exact hturn.writes.inOrder hstore
  | kill j =>
      obtain ⟨m, -, -, rfl⟩ := kill_cases hact
      exact hstore
  | upset load save reload => exact hallow.elim

/-- All that is allowed leaves the account alone, but for the turns of its monitors. -/
lemma Sound.leavesAlone (ht : t.Sound) (hσ : t.IsCurrent a σ) (hact : t.act x = some t')
    (hallow : t.Allows w a σ x)
    (hother : ∀ id event m, x = .step id event → t.monitors.get? id = some m → m.signal ≠ σ) :
    LeavesAlone a σ t t' where
  settings := act_settings hact
  inOrder := act_inOrder hact hallow
  contents := by
    by_contra hne
    rcases act_contents hact a with heq | ⟨haccount, ss, ss', -, -, hwritten⟩
    · exact hne heq
    · cases hwritten with
      | added _ =>
          obtain ⟨guard, hg, haccount⟩ := Option.map_eq_some_iff.mp haccount
          exact hallow guard hg haccount
      | @moved j event n _ _ _ _ hn _ _ _ =>
          rw [accountOf, hn, Option.map_some, Option.some.injEq] at haccount
          obtain ⟨n', hn'⟩ := watches_of_contents_ne hact hne
          obtain rfl : n = n' := Option.some.inj (hn.symm.trans hn'.found)
          exact hother j event n rfl hn (ht.signal_of_watches hσ hn' haccount)
  monitors := by
    intro id m hm
    constructor
    · intro hid
      cases act_becomes hact hid with
      | kept hid _ => exact hid
      | started hg hx _ _ _ =>
          refine absurd hm (ht.signal_ne hσ hg ?_)
          rcases hx with rfl | ⟨_, _, rfl⟩ <;> exact hallow _ hg
      | turned hn hturn =>
          exact absurd (hturn.same.signal.symm.trans hm) (hother _ _ _ rfl hn)
      | @killed n hn _ => exact absurd hm (hallow n hn)
    · intro hid
      refine (act_kept hact (ht.monitor_lt hid) ?_ ?_).trans hid
      · rintro event rfl
        exact hother id event m rfl hid hm
      · rintro rfl
        exact hallow m hid hm

/-! ### Runs -/

/-- The monitors stay on their ways until their signal is aborted. -/
lemma Conducts.act (hc : t.Conducts w ss mon a σ st) (ht : t.Sound) (hd : Distinct ss)
    (hact : t.act x = some t') (hallow : t.Allows w a σ x) :
    t'.scopes.isAborted σ = true ∨ ∃ st', t'.Conducts w ss mon a σ st' := by
  obtain ⟨e, he, rfl⟩ := hc.current
  rcases (ht.act_follows hact).signal he with haborted | hcurrent
  · exact .inl haborted
  right
  by_cases hown : ∃ id event m, x = .step id event ∧ t.monitors.get? id = some m ∧ m.signal = e.signal
  · obtain ⟨id, event, m, rfl, hm, hσ⟩ := hown
    exact hc.turn ht hd hm hσ hact (hallow m hm hσ)
  · refine ⟨st, hc.aside (ht.leavesAlone hc.current hact hallow ?_) hcurrent⟩
    rintro id event m rfl hm hσ
    exact hown ⟨id, event, m, rfl, hm, hσ⟩

/-- Over a run the monitors stay on their ways until their signal is aborted. -/
theorem run_conducts {xs : List TrackerAction} (h : t.run xs = some t') (hbides : t.Bides w a σ xs)
    (hd : Distinct ss) (ht : t.Sound)
    (hc : t.scopes.isAborted σ = true ∨ ∃ st, t.Conducts w ss mon a σ st) :
    t'.Sound ∧ (t'.scopes.isAborted σ = true ∨ ∃ st, t'.Conducts w ss mon a σ st) := by
  induction xs generalizing t with
  | nil =>
      cases h
      exact ⟨ht, hc⟩
  | cons x r ih =>
      obtain ⟨t₁, hact, hr⟩ := Option.bind_eq_some_iff.mp h
      obtain ⟨hallow, hrest⟩ := hbides
      refine ih hr (hrest t₁ hact) (ht.act hact) ?_
      rcases hc with haborted | ⟨st, hc⟩
      · exact .inl ((ht.act_follows hact).aborted haborted)
      · exact hc.act ht hd hact hallow

/-! ### The start -/

/-- The monitors of an account's signal are monitors of the account. -/
lemma Sound.account_of_signal (ht : t.Sound) (hσ : t.IsCurrent a σ) (hm : t.monitors.get? id = some m)
    (hmσ : m.signal = σ) : m.account = a := by
  obtain ⟨e, he, rfl⟩ := hσ
  rcases ht.belongs hm with haborted | ⟨e', he', hsignal⟩
  · rw [hmσ, ht.live_of_isCurrent ⟨e, he, rfl⟩] at haborted
    cases haborted
  · exact ht.scopes.apart he' he (hsignal.trans hmσ)

/-- If nobody watched the account, the monitors of its signal that run now have just been started. -/
lemma Sound.fresh_of_startAll {hs : List TransactionHash} (ht : t.Sound) (hσ : t.IsCurrent a σ)
    (hnone : ∀ id m, t.Watches id m → m.account ≠ a)
    (hm : (t.startAll a σ hs).2.monitors.get? id = some m) (hmσ : m.signal = σ)
    (hrunning : m.isRunning = true) :
    t.monitors.get? id = none ∧ ∃ h ∈ hs, ∃ c, m = .fresh a h σ c := by
  have hstarts := startAll_starts a σ hs t
  have hcurrent : (t.startAll a σ hs).2.IsCurrent a σ := by rwa [IsCurrent, hstarts.scopes]
  have haccount := (ht.startAll hσ).account_of_signal hcurrent hm hmσ
  rcases hstarts.fresh hm with hold | ⟨hid, h, hmem, c, rfl⟩
  · exact absurd haccount (hnone id m ⟨hold, hrunning, hmσ ▸ ht.live_of_isCurrent hσ⟩)
  · refine ⟨?_, h, hmem, c, rfl⟩
    by_contra hsome
    obtain ⟨n, hn⟩ := Option.ne_none_iff_exists'.mp hsome
    exact absurd (ht.monitor_lt hn) (not_lt.mpr hid)

/-- If nobody watched the account, every hash gets a monitor of its own. -/
lemma Sound.exists_fresh_of_mem {hs : List TransactionHash} (ht : t.Sound) (hσ : t.IsCurrent a σ)
    (hnone : ∀ id m, t.Watches id m → m.account ≠ a) {h : TransactionHash} (hmem : h ∈ hs) :
    ∃ id ∈ (t.startAll a σ hs).1, ∃ c,
      (t.startAll a σ hs).2.monitors.get? id = some (.fresh a h σ c) := by
  obtain ⟨id, m, hm, hkey, hmσ⟩ := ht.startAll_watches hσ hmem
  obtain ⟨hnew, h', -, c, rfl⟩ := ht.fresh_of_startAll hσ hnone hm.found hmσ hm.running
  obtain rfl : h' = h := congrArg Prod.snd hkey
  exact ⟨id, mem_startAll hm.found hnew, c, hm.found⟩

/-- Once monitors are started for the pending submissions of an account that nobody watches, each of them
has one, and these are on their ways. -/
lemma Sound.startAll_conducts (ht : t.Sound) (hσ : t.IsCurrent a σ) (hpolls : t.settings.maxPolls = none)
    (hstore : t.store.InOrder) (hss : t.store.contents a = .ok ss) (hd : Distinct ss)
    (hnone : ∀ id m, t.Watches id m → m.account ≠ a) (w : TransactionHash → Fate) :
    ∃ mon st, (t.startAll a σ (pending ss)).2.Conducts w ss mon a σ st ∧
      ∀ s ∈ ss, s.status.isFinal = false → mon s.hash ∈ (t.startAll a σ (pending ss)).1 := by
  have hstarts := startAll_starts a σ (pending ss) t
  have hcurrent : (t.startAll a σ (pending ss)).2.IsCurrent a σ := by rwa [IsCurrent, hstarts.scopes]
  have hassigned : ∀ h, ∃ id, h ∈ pending ss → id ∈ (t.startAll a σ (pending ss)).1 ∧
      ∃ c, (t.startAll a σ (pending ss)).2.monitors.get? id = some (.fresh a h σ c) := by
    intro h
    by_cases hmem : h ∈ pending ss
    · obtain ⟨id, hid, hfresh⟩ := ht.exists_fresh_of_mem hσ hnone hmem
      exact ⟨id, fun _ => ⟨hid, hfresh⟩⟩
    · exact ⟨0, fun h => absurd h hmem⟩
  choose mon hmon using hassigned
  have hpending : ∀ {s}, s ∈ ss → s.status.isFinal = false → s.hash ∈ pending ss := fun hs hfinal =>
    (mem_pending_iff hd).mpr ⟨_, statusIn_of_mem hd hs, hfinal⟩
  have hfirst : ∀ s ∈ ss, s.status = (statusIn ss s.hash).getD .committed := by
    intro s hs
    rw [statusIn_of_mem hd hs, Option.getD_some]
  refine ⟨mon, fun h => (statusIn ss h).getD .committed,
    ⟨hcurrent, ?_, ?_, ?_, ?_, fun hs _ => (hfirst _ hs).symm, ?_⟩,
    fun s hs hfinal => (hmon s.hash (hpending hs hfinal)).1⟩
  · rw [hstarts.settings, hpolls]
  · rw [hstarts.store]
    exact hstore
  · rw [hstarts.store, hss, restamp_eq_self hfirst]
  · intro s hs hfinal
    obtain ⟨-, c, hc⟩ := hmon s.hash (hpending hs hfinal)
    rw [← hfirst s hs]
    exact ⟨_, hc, rfl, rfl, .ready rfl hfinal rfl⟩
  · intro id m hm hmσ hrunning
    obtain ⟨-, h, hmem, c, rfl⟩ := ht.fresh_of_startAll hσ hnone hm hmσ hrunning
    obtain ⟨-, c', hc'⟩ := hmon h hmem
    obtain ⟨status, hstatus, hfinal⟩ := (mem_pending_iff hd).mp hmem
    obtain ⟨s, hs, rfl⟩ := Option.map_eq_some_iff.mp hstatus
    obtain rfl : s.hash = h := by simpa using List.find?_some hs
    refine ⟨s, List.mem_of_find?_eq_some hs, hfinal, ?_⟩
    -- a submission has one monitor
    have hlive := (ht.startAll hσ).live_of_isCurrent hcurrent
    exact (ht.startAll hσ).watches_unique ⟨hm, rfl, hlive⟩ ⟨hc', rfl, hlive⟩ rfl

/-! ### The end -/

/-- A monitor that has come to its end has brought its submission where it comes to. -/
lemma reached_of_ended {f : Fate} {first now : SubmissionStatus} (hm : f.Along first now m)
    (hended : m.isRunning = false) :
    now = f.reached first ∧ (now = f.destination first ∨ m.phase = .ended .brokeDown) := by
  obtain ⟨how, hphase⟩ := Monitor.isRunning_eq_false_iff.mp hended
  cases hm with
  | arrived _ _ heq => exact ⟨heq.symm, .inl rfl⟩
  | overrun hphase' hdelay happroves =>
      refine ⟨?_, .inr hphase'⟩
      rw [Fate.reached, if_neg (not_lt.mpr hdelay)]
      exact (happroves.follow _).symm
  | ready hphase' _ _ => simp_all
  | waiting hphase' _ _ => simp_all
  | polling hphase' _ _ _ => simp_all
  | sleeping hphase' _ _ _ => simp_all

/-- All of the monitors have come to an end. -/
def AllEnded (t : Tracker) (ms : List ℕ) : Prop :=
  ∀ i ∈ ms, ∀ m ∈ t.monitors.get? i, m.isRunning = false

/-- A monitor of the submission has broken down: it made more polls than can be counted. -/
def BrokenDown (t : Tracker) (ms : List ℕ) (h : TransactionHash) : Prop :=
  ∃ i ∈ ms, ∃ m, t.monitors.get? i = some m ∧ m.hash = h ∧ m.phase = .ended .brokeDown

/-- Once all monitors have ended, every submission is where it comes to. -/
lemma Conducts.reached_of_allEnded {ms : List ℕ} (hc : t.Conducts w ss mon a σ st)
    (hms : ∀ s ∈ ss, s.status.isFinal = false → mon s.hash ∈ ms) (hended : t.AllEnded ms)
    {s : Submission} (hs : s ∈ ss) :
    st s.hash = (w s.hash).reached s.status ∧
      (st s.hash = (w s.hash).destination s.status ∨ t.BrokenDown ms s.hash) := by
  cases hfinal : s.status.isFinal with
  | true =>
      rw [hc.settled hs hfinal]
      have hfollow := fun judged => Fate.follow_of_isFinal (f := w s.hash) hfinal judged
      exact ⟨(hfollow _).symm, .inl (hfollow _).symm⟩
  | false =>
      obtain ⟨m, hm, hkey, -, halong⟩ := hc.conducted hs hfinal
      have hmem := hms s hs hfinal
      obtain ⟨hreached, hdest | hphase⟩ := reached_of_ended halong (hended _ hmem m hm)
      · exact ⟨hreached, .inl hdest⟩
      · exact ⟨hreached, .inr ⟨_, hmem, m, hm, congrArg Prod.snd hkey, hphase⟩⟩

/-- Monitors are started for the pending submissions of an account that nobody watches yet. In whatever
order they and everyone else go on, as long as each of them gets what its submission's fate has in store:
once all of them have ended the list is the same, and every submission has come to its own destination.
It is left approved instead if its fate keeps it waiting for more polls than can be counted, and its monitor
has broken down. -/
theorem outcome_of_every_schedule {settings : TrackerSettings} {store : SubmissionStore}
    {xs ys ys' : List TrackerAction} {t₀ t₁ : Tracker} {g : ℕ} {ms : List ℕ}
    (h₀ : (Tracker.empty settings store).run xs = some t₀) (hpolls : settings.maxPolls = none)
    (hstore : t₀.store.InOrder) (hg : t₀.scopes.guards.get? g = some ⟨a, σ⟩)
    (hss : t₀.store.contents a = .ok ss) (hd : Distinct ss)
    (hnone : ∀ id m, t₀.Watches id m → m.account ≠ a) (hinit : t₀.init ⟨a, σ⟩ = .ok (ms, t₁))
    (h : t₁.run ys = some t) (hbides : t₁.Bides w a σ ys)
    (hheld : t.scopes.guards.get? g = some ⟨a, σ⟩) (hended : t.AllEnded ms)
    (h' : t₁.run ys' = some t') (hbides' : t₁.Bides w a σ ys')
    (hheld' : t'.scopes.guards.get? g = some ⟨a, σ⟩) (hended' : t'.AllEnded ms) :
    t.store.contents a = t'.store.contents a ∧
    ∃ last, t.store.contents a = .ok (restamp last ss) ∧
      ∀ s ∈ ss, last s.hash = (w s.hash).destination s.status ∨
        last s.hash = .approved ∧ Numeral.max32 ≤ (w s.hash).delay ∧
          t.BrokenDown ms s.hash ∧ t'.BrokenDown ms s.hash := by
  have ht₀ := sound_of_run h₀
  have hcurrent : t₀.IsCurrent a σ := ht₀.scopes.scope_of_guard hg
  have hsettings : t₀.settings.maxPolls = none := by
    refine run_induction (P := fun u => u.settings.maxPolls = none) (fun _ hact hu => ?_) h₀ hpolls
    rw [act_settings hact, hu]
  obtain ⟨mon, st₁, hc₁, hms⟩ := ht₀.startAll_conducts hcurrent hsettings hstore hss hd hnone w
  have hload : t₀.store.load a = .ok ss := (hstore.load_eq a).trans hss
  simp only [Tracker.init, hload, Except.ok.injEq] at hinit
  rw [hinit] at hc₁ hms
  have ht₁ : t₁.Sound := by
    have hstarted : (t₀.startAll a σ (pending ss)).2.Sound := ht₀.startAll hcurrent
    rwa [hinit] at hstarted
  -- what holds at the end of any such run
  have hend : ∀ {zs : List TrackerAction} {u : Tracker}, t₁.run zs = some u → t₁.Bides w a σ zs →
      u.scopes.guards.get? g = some ⟨a, σ⟩ → ∃ st, u.Conducts w ss mon a σ st := by
    intro zs u hu hubides huheld
    obtain ⟨hsound, haborted | hc⟩ := run_conducts hu hubides hd ht₁ (.inr ⟨st₁, hc₁⟩)
    · have hlive := hsound.live_of_isCurrent (hsound.scopes.scope_of_guard huheld)
      rw [hlive] at haborted
      cases haborted
    · exact hc
  obtain ⟨st, hc⟩ := hend h hbides hheld
  obtain ⟨st', hc'⟩ := hend h' hbides' hheld'
  have hlast := fun s hs => hc.reached_of_allEnded hms hended (s := s) hs
  have hlast' := fun s hs => hc'.reached_of_allEnded hms hended' (s := s) hs
  refine ⟨?_, st, hc.contents, fun s hs => ?_⟩
  · rw [hc.contents, hc'.contents,
      restamp_congr fun s hs => (hlast s hs).1.trans (hlast' s hs).1.symm]
  · obtain ⟨hreached, hdest | hbroken⟩ := hlast s hs
    · exact .inl hdest
    · obtain ⟨hreached', hdest | hbroken'⟩ := hlast' s hs
      · exact .inl (hreached.trans (hreached'.symm.trans hdest))
      · rcases (w s.hash).reached_cases s.status with heq | ⟨hdelay, happroved⟩
        · exact .inl (hreached.trans heq)
        · exact .inr ⟨hreached.trans happroved, hdelay, hbroken, hbroken'⟩

/-- One ballot is verified at the second poll, the node fails for another one: the two monitors take their
turns in two different orders. -/
theorem outcome_of_two_schedules :
    ∃ t₀ t₁ t t', (Tracker.empty ⟨10, none⟩ .ofLists).run
        [.acquire ⟨.replicate 1⟩, .add 0 ⟨.replicate 2⟩ .epoch, .kill 0,
          .add 0 ⟨.replicate 3⟩ .epoch, .kill 1] = some t₀ ∧
      t₀.init ⟨⟨.replicate 1⟩, 0⟩ = .ok ([2, 3], t₁) ∧
      t₁.run [.step 2 .start, .step 3 .start, .step 2 (.finalized (.ok .success)),
        .step 2 (.answered (.ok none)), .step 3 (.finalized (.error .io)), .step 2 (.awoken none),
        .step 2 (.answered (.ok (some ⟨⟨.replicate 2⟩, ⟨.replicate 1⟩, .epoch, true⟩)))] = some t ∧
      t₁.run [.step 3 .start, .step 3 (.finalized (.error .io)), .step 2 .start,
        .step 2 (.finalized (.ok .success)), .step 2 (.answered (.ok none)), .step 2 (.awoken none),
        .step 2 (.answered (.ok (some ⟨⟨.replicate 2⟩, ⟨.replicate 1⟩, .epoch, true⟩)))] = some t' ∧
      t.store.contents ⟨.replicate 1⟩ =
        .ok [⟨⟨.replicate 2⟩, .verified, .epoch⟩, ⟨⟨.replicate 3⟩, .committed, .epoch⟩] ∧
      t.store.contents ⟨.replicate 1⟩ = t'.store.contents ⟨.replicate 1⟩ := by
  refine ⟨_, _, _, _, rfl, rfl, rfl, rfl, by decide, ?_⟩
  refine (@outcome_of_every_schedule _ _ 0 ⟨.replicate 1⟩
    [⟨⟨.replicate 2⟩, .committed, .epoch⟩, ⟨⟨.replicate 3⟩, .committed, .epoch⟩]
    (fun h => if h = ⟨.replicate 2⟩ then
      ⟨.ok .success, 1, .ok ⟨⟨.replicate 2⟩, ⟨.replicate 1⟩, .epoch, true⟩⟩
      else ⟨.error .io, 0, .error .io⟩)
    ⟨10, none⟩ .ofLists
    [.acquire ⟨.replicate 1⟩, .add 0 ⟨.replicate 2⟩ .epoch, .kill 0,
      .add 0 ⟨.replicate 3⟩ .epoch, .kill 1]
    [.step 2 .start, .step 3 .start, .step 2 (.finalized (.ok .success)),
      .step 2 (.answered (.ok none)), .step 3 (.finalized (.error .io)), .step 2 (.awoken none),
      .step 2 (.answered (.ok (some ⟨⟨.replicate 2⟩, ⟨.replicate 1⟩, .epoch, true⟩)))]
    [.step 3 .start, .step 3 (.finalized (.error .io)), .step 2 .start,
      .step 2 (.finalized (.ok .success)), .step 2 (.answered (.ok none)), .step 2 (.awoken none),
      .step 2 (.answered (.ok (some ⟨⟨.replicate 2⟩, ⟨.replicate 1⟩, .epoch, true⟩)))]
    _ _ 0 [2, 3] (by rfl) rfl ⟨rfl, rfl, rfl⟩ (by rfl) (by rfl) (by rw [Distinct]; decide) ?_
    (by rfl) (by rfl) ?_ (by rfl) ?_ (by rfl) ?_ (by rfl) ?_).1
  · -- the claims of the two monitors that were killed are gone
    intro id m hm
    have h₀ : (Tracker.empty ⟨10, none⟩ .ofLists).run
        [.acquire ⟨.replicate 1⟩, .add 0 ⟨.replicate 2⟩ .epoch, .kill 0,
          .add 0 ⟨.replicate 3⟩ .epoch, .kill 1] = some _ := rfl
    cases (sound_of_run h₀).claim_of_watches hm
  · exact bides_step rfl trivial rfl <| bides_step rfl trivial rfl <| bides_step rfl rfl rfl <|
      bides_step rfl rfl rfl <| bides_step rfl rfl rfl <| bides_step rfl trivial rfl <|
      bides_step rfl rfl rfl trivial
  · rw [AllEnded]
    decide
  · exact bides_step rfl trivial rfl <| bides_step rfl rfl rfl <| bides_step rfl trivial rfl <|
      bides_step rfl rfl rfl <| bides_step rfl rfl rfl <| bides_step rfl trivial rfl <|
      bides_step rfl rfl rfl trivial
  · rw [AllEnded]
    decide

/-- The only ballot of an account would be verified after as many polls in vain as a word can count. Its monitor
gets what is in store for it until it ends, and the ballot stays approved. -/
theorem late_verdict_is_never_heard :
    let w : TransactionHash → Fate := fun _ =>
      ⟨.ok .success, Numeral.max32, .ok ⟨⟨.replicate 2⟩, ⟨.replicate 1⟩, .epoch, true⟩⟩
    ∃ t₀ t₁ t, (Tracker.empty ⟨10, none⟩ .ofLists).run
        [.acquire ⟨.replicate 1⟩, .add 0 ⟨.replicate 2⟩ .epoch, .step 0 .start,
          .step 0 (.finalized (.ok .success)), .kill 0] = some t₀ ∧
      t₀.init ⟨⟨.replicate 1⟩, 0⟩ = .ok ([1], t₁) ∧
      t₁.run (.step 1 .start :: silence 1 Numeral.max32) = some t ∧
      t₁.Bides w ⟨.replicate 1⟩ 0 (.step 1 .start :: silence 1 Numeral.max32) ∧
      t.scopes.guards.get? 0 = some ⟨⟨.replicate 1⟩, 0⟩ ∧ t.AllEnded [1] ∧
      t.store.contents ⟨.replicate 1⟩ = .ok [⟨⟨.replicate 2⟩, .approved, .epoch⟩] ∧
      (w ⟨.replicate 2⟩).destination .approved = .verified := by
  intro w
  obtain ⟨t₀, t₁, t₂, m₁, m₂, h₀, hinit, hm₁, hstart, hm₂, hpolls, hhash, hguard, hcontents⟩ :
      ∃ t₀ t₁ t₂ m₁ m₂, (Tracker.empty ⟨10, none⟩ .ofLists).run
          [.acquire ⟨.replicate 1⟩, .add 0 ⟨.replicate 2⟩ .epoch, .step 0 .start,
            .step 0 (.finalized (.ok .success)), .kill 0] = some t₀ ∧
        t₀.init ⟨⟨.replicate 1⟩, 0⟩ = .ok ([1], t₁) ∧ t₁.monitors.get? 1 = some m₁ ∧
        t₁.act (.step 1 .start) = some t₂ ∧ t₂.AwaitsPoll 1 m₂ 1 ∧ m₂.effort.polls = 1 ∧
        m₂.hash = ⟨.replicate 2⟩ ∧ t₂.scopes.guards.get? 0 = some ⟨⟨.replicate 1⟩, 0⟩ ∧
        t₂.store.contents ⟨.replicate 1⟩ = .ok [⟨⟨.replicate 2⟩, .approved, .epoch⟩] :=
    ⟨_, _, _, _, _, rfl, rfl, rfl, rfl, ⟨rfl, ⟨1, rfl, rfl⟩, by decide, rfl⟩, rfl, rfl, by decide,
      by decide⟩
  have hfull : 1 + Numeral.max32 = Numeral.max32 + 1 := Nat.add_comm 1 Numeral.max32
  obtain ⟨t, m, hrun, haside, hm, -, hphase, -⟩ := hm₂.run_overrun hfull
  refine ⟨t₀, t₁, t, h₀, hinit, ?_, ?_, haside.scopes ▸ hguard, ?_, haside.store ▸ hcontents, rfl⟩
  · rw [run, hstart, Option.bind_some, hrun]
  · exact bides_step hm₁ trivial hstart (bides_silence hm₂ hpolls hfull.le hfull.le)
  · intro i hi n hn
    obtain rfl := List.mem_singleton.mp hi
    rw [hm, Option.mem_some_iff] at hn
    rw [← hn, Monitor.isRunning, hphase]

end Tracker

end ChainElection
