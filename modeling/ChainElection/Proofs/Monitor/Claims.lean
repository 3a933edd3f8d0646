import Mathlib.Tactic
import ChainElection.Proofs.Monitor.Lists
import ChainElection.Proofs.Monitor.Scopes

/-!
Claims: which monitor a submission belongs to.

A claim may be taken over from a monitor that is still running, once its scope
is aborted, so several monitors of one submission can be around and end in any
order.

* `Tracker.Sound` is the invariant that ties claims, signals and scopes
  together: a running monitor under a live signal has the registered claim, a
  registered claim belongs to a running monitor, and no two monitors share one.
* `Sound.place`, `Sound.start`, `Sound.of_scopes`: what a monitor's step, a start
  and a change of guards keep of it; `Sound.act` and `run_sound` follow.
* `claims_follow_live_monitors` is what this means for a submission.
-/

namespace ChainElection.Tracker

open Submission

variable {t t' : Tracker} {x : TrackerAction} {id : ℕ} {m : Monitor}

/-- The invariant of claims and monitors. -/
structure Sound (t : Tracker) : Prop where
  scopes : t.scopes.Valid
  monitor_lt : ∀ {id m}, t.monitors.get? id = some m → id < t.nextMonitor
  claim_lt : ∀ {id m}, t.monitors.get? id = some m → m.claim < t.nextClaim
  claim_inj : ∀ {id id' m m'}, t.monitors.get? id = some m → t.monitors.get? id' = some m' →
    m.claim = m'.claim → id = id'
  registered : ∀ {id m}, t.monitors.get? id = some m → m.isRunning = true →
    t.scopes.isAborted m.signal = false → t.claims.get? m.key = some ⟨m.claim, m.signal⟩
  owner : ∀ {k c}, t.claims.get? k = some c →
    ∃ id m, t.monitors.get? id = some m ∧ m.isRunning = true ∧ m.key = k ∧ c = ⟨m.claim, m.signal⟩
  belongs : ∀ {id m}, t.monitors.get? id = some m → t.scopes.isAborted m.signal = true ∨
    ∃ e, t.scopes.scopes.get? m.account = some e ∧ e.signal = m.signal
  latest : ∀ {id m id' m'}, t.monitors.get? id = some m → m.isRunning = true →
    t.scopes.isAborted m.signal = false → t.monitors.get? id' = some m' → m'.key = m.key → id' ≤ id

/-- A tracker that has nothing to do is sound. -/
lemma Sound.empty (settings : TrackerSettings) (store : SubmissionStore) :
    (Tracker.empty settings store).Sound where
  scopes := .empty
  monitor_lt := fun h => by cases h
  claim_lt := fun h => by cases h
  claim_inj := fun h => by cases h
  registered := fun h => by cases h
  owner := fun h => by cases h
  belongs := fun h => by cases h
  latest := fun h => by cases h

/-- The invariant does not look at the store and the updates. -/
lemma Sound.of_eq (ht : t.Sound) (hscopes : t'.scopes = t.scopes) (hclaims : t'.claims = t.claims)
    (hmonitors : t'.monitors = t.monitors) (hclaim : t'.nextClaim = t.nextClaim)
    (hmonitor : t'.nextMonitor = t.nextMonitor) : t'.Sound := by
  constructor <;> simp only [hscopes, hclaims, hmonitors, hclaim, hmonitor]
  exacts [ht.scopes, ht.monitor_lt, ht.claim_lt, ht.claim_inj, ht.registered, ht.owner, ht.belongs,
    ht.latest]

lemma Sound.writes (ht : t.Sound) (hw : Writes t m t') : t'.Sound :=
  ht.of_eq hw.scopes hw.claims hw.monitors hw.nextClaim hw.nextMonitor

/-! ### Writing a monitor -/

/-- Every monitor that is there once one is written was there before, the same and running if it runs. -/
lemma of_get?_place (hm : t.monitors.get? id = some m) (hrunning : m.isRunning = true)
    {m' : Monitor} (hsame : m.Same m') {j : ℕ} {n : Monitor}
    (hj : (t.place id m').monitors.get? j = some n) :
    ∃ n₀, t.monitors.get? j = some n₀ ∧ n₀.Same n ∧ (n.isRunning = true → n₀.isRunning = true) := by
  rw [get?_place_monitors] at hj
  split at hj
  · rename_i hij
    cases hj
    subst hij
    exact ⟨m, hm, hsame, fun _ => hrunning⟩
  · exact ⟨n, hj, .refl n, fun hn => hn⟩

/-- A monitor may take any step that leaves it the same, its end included. -/
lemma Sound.place (ht : t.Sound) (hm : t.monitors.get? id = some m) (hrunning : m.isRunning = true)
    {m' : Monitor} (hsame : m.Same m') : (t.place id m').Sound where
  scopes := ht.scopes
  monitor_lt := by
    intro j n hj
    obtain ⟨n₀, hj₀, -, -⟩ := of_get?_place hm hrunning hsame hj
    exact ht.monitor_lt hj₀
  claim_lt := by
    intro j n hj
    obtain ⟨n₀, hj₀, hn, -⟩ := of_get?_place hm hrunning hsame hj
    exact hn.claim ▸ ht.claim_lt hj₀
  claim_inj := by
    intro j k n n' hj hk hclaim
    obtain ⟨n₀, hj₀, hn, -⟩ := of_get?_place hm hrunning hsame hj
    obtain ⟨n₀', hk₀, hn', -⟩ := of_get?_place hm hrunning hsame hk
    have hclaim₀ : n₀.claim = n₀'.claim := calc
      n₀.claim = n.claim := hn.claim.symm
      _ = n'.claim := hclaim
      _ = n₀'.claim := hn'.claim
    exact ht.claim_inj hj₀ hk₀ hclaim₀
  registered := by
    intro j n hj hn hlive
    rw [get?_place_monitors] at hj
    rw [get?_place_claims]
    split at hj
    · cases hj
      refine ⟨?_, .inl hn⟩
      rw [hsame.key, hsame.claim, hsame.signal]
      exact ht.registered hm hrunning (hsame.signal ▸ hlive)
    · -- the claim of another monitor is not the one that goes
      rename_i hij
      refine ⟨ht.registered hj hn hlive, .inr fun _ hclaim => hij ?_⟩
      exact ht.claim_inj hm hj (hsame.claim ▸ hclaim.symm)
  owner := by
    intro k c hc
    rw [get?_place_claims] at hc
    obtain ⟨hc, hleft⟩ := hc
    obtain ⟨j, n, hj, hn, hkey, rfl⟩ := ht.owner hc
    by_cases hij : id = j
    · subst hij
      rw [hm, Option.some.injEq] at hj
      subst hj
      refine ⟨id, m', by rw [get?_place_monitors, if_pos rfl], ?_, hsame.key.trans hkey, ?_⟩
      · rcases hleft with hleft | hleft
        · exact hleft
        · exact absurd hsame.claim.symm (hleft (hsame.key.trans hkey))
      · rw [hsame.claim, hsame.signal]
    · exact ⟨j, n, by rw [get?_place_monitors, if_neg hij, hj], hn, hkey, rfl⟩
  belongs := by
    intro j n hj
    obtain ⟨n₀, hj₀, hn, -⟩ := of_get?_place hm hrunning hsame hj
    rw [hn.account, hn.signal]
    exact ht.belongs hj₀
  latest := by
    intro j n k n' hj hn hlive hk hkey
    obtain ⟨n₀, hj₀, hsame₀, hran⟩ := of_get?_place hm hrunning hsame hj
    obtain ⟨n₀', hk₀, hsame₀', -⟩ := of_get?_place hm hrunning hsame hk
    have hkey₀ : n₀'.key = n₀.key := calc
      n₀'.key = n'.key := hsame₀'.key.symm
      _ = n.key := hkey
      _ = n₀.key := hsame₀.key
    exact ht.latest hj₀ (hran hn) (hsame₀.signal ▸ hlive) hk₀ hkey₀

/-- A step of a monitor keeps the invariant. -/
lemma Sound.step {event : MonitorEvent} (ht : t.Sound) (h : t.step id event = some t') :
    t'.Sound := by
  obtain ⟨m, t₁, m', hm, hturn, rfl⟩ := step_cases h
  have hw := hturn.writes
  exact (ht.writes hw).place (hw.monitors ▸ hm) hturn.isRunning hturn.same

/-! ### Starting a monitor -/

lemma Sound.started {a : Account} {h : TransactionHash} {σ : ℕ} (ht : t.Sound)
    (hfree : t.isFree (a, h) = true)
    (hσ : ∃ e, t.scopes.scopes.get? a = some e ∧ e.signal = σ) : (t.started a h σ).Sound where
  scopes := ht.scopes
  monitor_lt := by
    intro j n hj
    rw [get?_started_monitors] at hj
    split at hj
    · rename_i hij
      exact hij ▸ Nat.lt_succ_self _
    · exact Nat.lt_succ_of_lt (ht.monitor_lt hj)
  claim_lt := by
    intro j n hj
    rw [get?_started_monitors] at hj
    split at hj
    · cases hj
      exact Nat.lt_succ_self _
    · exact Nat.lt_succ_of_lt (ht.claim_lt hj)
  claim_inj := by
    intro j k n n' hj hk hclaim
    rw [get?_started_monitors] at hj hk
    split at hj <;> split at hk
    · rename_i hij hik
      exact hij.symm.trans hik
    · cases hj
      exact absurd hclaim (ht.claim_lt hk).ne'
    · cases hk
      exact absurd hclaim (ht.claim_lt hj).ne
    · exact ht.claim_inj hj hk hclaim
  registered := by
    intro j n hj hn hlive
    rw [get?_started_monitors] at hj
    rw [get?_started_claims]
    split at hj
    · cases hj
      exact if_pos rfl
    · -- nobody else has the submission under a live signal, or it would not have been free
      have hreg := ht.registered hj hn hlive
      rw [if_neg, hreg]
      intro hkey
      have hab := isFree_eq_true_iff.mp hfree _ (hkey ▸ hreg)
      exact absurd (hab.symm.trans hlive) (by simp)
  owner := by
    intro k c hc
    rw [get?_started_claims] at hc
    split at hc
    · rename_i hk
      cases hc
      exact ⟨t.nextMonitor, .fresh a h σ t.nextClaim, by rw [get?_started_monitors, if_pos rfl],
        rfl, hk, rfl⟩
    · obtain ⟨j, n, hj, hn, hkey, rfl⟩ := ht.owner hc
      refine ⟨j, n, ?_, hn, hkey, rfl⟩
      rw [get?_started_monitors, if_neg (ht.monitor_lt hj).ne', hj]
  belongs := by
    intro j n hj
    rw [get?_started_monitors] at hj
    split at hj
    · cases hj
      exact .inr hσ
    · exact ht.belongs hj
  latest := by
    intro j n k n' hj hn hlive hk hkey
    rw [get?_started_monitors] at hj hk
    split at hj <;> split at hk
    · rename_i hij hik
      exact (hik.symm.trans hij).le
    · rename_i hij _
      exact hij ▸ (ht.monitor_lt hk).le
    · cases hk
      have hab := isFree_eq_true_iff.mp hfree _ (hkey.symm ▸ ht.registered hj hn hlive)
      exact absurd (hab.symm.trans hlive) (by simp)
    · exact ht.latest hj hn hlive hk hkey

/-- Starting a monitor under the signal of the account's scope keeps the invariant. -/
lemma Sound.start {a : Account} {h : TransactionHash} {σ : ℕ} (ht : t.Sound)
    (hσ : ∃ e, t.scopes.scopes.get? a = some e ∧ e.signal = σ) : (t.start a h σ).2.Sound := by
  rcases start_cases t a h σ with ⟨hfree, hstart⟩ | ⟨-, hstart⟩ <;> rw [hstart]
  · exact ht.started hfree hσ
  · exact { ht with claim_lt := fun hj => Nat.lt_succ_of_lt (ht.claim_lt hj) }

lemma Sound.startAll {a : Account} {σ : ℕ} {hs : List TransactionHash} (ht : t.Sound)
    (hσ : ∃ e, t.scopes.scopes.get? a = some e ∧ e.signal = σ) : (t.startAll a σ hs).2.Sound := by
  induction hs generalizing t with
  | nil => exact ht
  | cons h r ih =>
      have hσ' : ∃ e, (t.start a h σ).2.scopes.scopes.get? a = some e ∧ e.signal = σ := by
        rwa [(start_starts t a h σ).scopes]
      exact ih (ht.start hσ) hσ'

/-! ### Guards -/

/-- Guards may come and go. -/
lemma Sound.of_scopes {s : Scopes} (ht : t.Sound) (hs : s.Valid) (hfollows : t.scopes.Follows s) :
    { t with scopes := s }.Sound :=
  { ht with
    scopes := hs
    registered := fun hj hn hl => ht.registered hj hn (hfollows.live hl)
    belongs := by
      intro j n hj
      rcases ht.belongs hj with h | ⟨e, he, hsig⟩
      · exact .inl (hfollows.aborted h)
      · exact hsig ▸ hfollows.signal he
    latest := fun hj hn hl hk hkey => ht.latest hj hn (hfollows.live hl) hk hkey }

lemma Sound.acquire (ht : t.Sound) (a : Account) : (t.acquire a).2.Sound :=
  ht.of_scopes ht.scopes.acquire (t.scopes.follows_acquire a)

lemma Sound.release (ht : t.Sound) (g : ℕ) : (t.release g).Sound :=
  ht.of_scopes ht.scopes.release (ht.scopes.follows_release g)

/-! ### Runs -/

lemma Sound.record (ht : t.Sound) {a : Account} {h : TransactionHash} {now : ClockTime}
    (hr : t.record a h now = .ok t') : t'.Sound := by
  rcases record_cases hr with ⟨ss, -, -, rfl⟩ | ⟨ss, store, -, -, -, rfl⟩
  · exact ht
  · exact ht.of_eq rfl rfl rfl rfl rfl

/-- A guard that is alive shares the signal of its account's scope. -/
lemma Sound.init (ht : t.Sound) {g : ℕ} {guard : Guard} (hg : t.scopes.guards.get? g = some guard) :
    (t.orElse (t.init guard)).Sound := by
  rcases init_cases t guard with heq | ⟨ss, -, heq⟩ <;> rw [heq]
  · exact ht
  · exact ht.startAll (ht.scopes.scope_of_guard hg)

lemma Sound.add (ht : t.Sound) {g : ℕ} {guard : Guard} (hg : t.scopes.guards.get? g = some guard)
    (h : TransactionHash) (now : ClockTime) : (t.orElse (t.add guard h now)).Sound := by
  rcases add_cases t guard h now with heq | ⟨t₁, hr, heq⟩ <;> rw [heq]
  · exact ht
  · exact (ht.record hr).start (record_scopes hr ▸ ht.scopes.scope_of_guard hg)

/-- Whatever happens keeps the invariant. -/
theorem Sound.act (ht : t.Sound) (h : t.act x = some t') : t'.Sound := by
  cases x with
  | acquire a =>
      cases h
      exact ht.acquire a
  | release g =>
      obtain ⟨-, -, rfl⟩ := Option.map_eq_some_iff.mp h
      exact ht.release g
  | init g =>
      obtain ⟨guard, hg, rfl⟩ := Option.map_eq_some_iff.mp h
      exact ht.init hg
  | add g hash now =>
      obtain ⟨guard, hg, rfl⟩ := Option.map_eq_some_iff.mp h
      exact ht.add hg hash now
  | step id event => exact ht.step h
  | kill id =>
      obtain ⟨m, hm, hrunning, rfl⟩ := kill_cases h
      exact ht.place hm hrunning (m.same_finish _)
  | upset load save reload =>
      cases h
      exact ht.of_eq rfl rfl rfl rfl rfl

/-- No event brings a signal to life again or changes that of an account's scope. -/
lemma Sound.act_follows (ht : t.Sound) (h : t.act x = some t') : t.scopes.Follows t'.scopes := by
  rcases act_scopes h with ⟨a, -, hscopes⟩ | ⟨g, -, hscopes⟩ | hscopes <;> rw [hscopes]
  · exact t.scopes.follows_acquire a
  · exact ht.scopes.follows_release g
  · exact .refl _

/-- A monitor that is there stays there, and stays the same. -/
lemma Sound.exists_same (ht : t.Sound) (h : t.act x = some t') (hm : t.monitors.get? id = some m) :
    ∃ m', t'.monitors.get? id = some m' ∧ m.Same m' := by
  by_cases hstep : ∃ event, x = .step id event
  · obtain ⟨event, rfl⟩ := hstep
    obtain ⟨t₁, m', hturn, rfl⟩ := turns_of_step hm h
    exact ⟨m', by rw [get?_place_monitors, if_pos rfl], hturn.same⟩
  · by_cases hkill : x = .kill id
    · subst hkill
      obtain ⟨-, rfl⟩ := running_of_kill hm h
      exact ⟨m.finish .killed, by rw [get?_place_monitors, if_pos rfl], m.same_finish _⟩
    · refine ⟨m, ?_, .refl m⟩
      rw [act_kept h (ht.monitor_lt hm) (fun event he => hstep ⟨event, he⟩) hkill, hm]

/-- The invariant holds after every run. -/
theorem run_sound {xs : List TrackerAction} (h : t.run xs = some t') (ht : t.Sound) : t'.Sound :=
  run_induction (P := Sound) (fun _ hact hsound => hsound.act hact) h ht

lemma sound_of_run {settings : TrackerSettings} {store : SubmissionStore}
    {xs : List TrackerAction} (h : (Tracker.empty settings store).run xs = some t) : t.Sound :=
  run_sound h (.empty settings store)

/-- The invariant holds at every later time, and no signal has come to life again by then. -/
lemma Sound.follows_of_reaches (ht : t.Sound) (h : t.Reaches t') :
    t'.Sound ∧ t.scopes.Follows t'.scopes := by
  obtain ⟨xs, hxs⟩ := h
  exact run_induction (P := fun u => u.Sound ∧ t.scopes.Follows u.scopes)
    (fun _ hact hu => ⟨hu.1.act hact, hu.2.trans (hu.1.act_follows hact)⟩) hxs ⟨ht, .refl _⟩

/-- A monitor that is there in a run stays there, and stays the same. -/
lemma Sound.exists_same_of_reaches (ht : t.Sound) (h : t.Reaches t')
    (hm : t.monitors.get? id = some m) : ∃ m', t'.monitors.get? id = some m' ∧ m.Same m' := by
  obtain ⟨xs, hxs⟩ := h
  refine (run_induction (P := fun u => u.Sound ∧ ∃ m', u.monitors.get? id = some m' ∧ m.Same m')
    (fun _ hact hu => ?_) hxs ⟨ht, m, hm, .refl m⟩).2
  obtain ⟨hsound, n, hn, hsame⟩ := hu
  obtain ⟨n', hn', hsame'⟩ := hsound.exists_same hact hn
  exact ⟨hsound.act hact, n', hn', hsame.trans hsame'⟩

/-! ### Who watches a submission -/

/-- A monitor watches its submission: it is running, and its signal is not aborted. -/
structure Watches (t : Tracker) (id : ℕ) (m : Monitor) : Prop where
  found : t.monitors.get? id = some m
  running : m.isRunning = true
  live : t.scopes.isAborted m.signal = false

lemma Sound.claim_of_watches (ht : t.Sound) (h : t.Watches id m) :
    t.claims.get? m.key = some ⟨m.claim, m.signal⟩ :=
  ht.registered h.found h.running h.live

/-- A submission has at most one monitor that watches it. -/
lemma Sound.watches_unique (ht : t.Sound) {id' : ℕ} {m' : Monitor} (h : t.Watches id m)
    (h' : t.Watches id' m') (hkey : m.key = m'.key) : id = id' := by
  have hc := ht.claim_of_watches h
  have hc' := ht.claim_of_watches h'
  rw [hkey, hc', Option.some.injEq, Claim.mk.injEq] at hc
  exact ht.claim_inj h.found h'.found hc.1.symm

/-- Writing a monitor leaves the claims as they are unless its own is the one that is registered. -/
lemma Sound.claims_place (ht : t.Sound) (hm : t.monitors.get? id = some m) {m' : Monitor}
    (hsame : m.Same m') (hnot : t.claims.get? m.key ≠ some ⟨m.claim, m.signal⟩) :
    (t.place id m').claims = t.claims := by
  have hleft : t.withoutClaim m' = t.claims := by
    rw [withoutClaim, hsame.key, hsame.claim]
    split
    · rename_i c hc
      rw [if_neg]
      intro hid
      -- the owner of the claim would be this monitor
      obtain ⟨j, n, hj, -, -, rfl⟩ := ht.owner hc
      obtain rfl := ht.claim_inj hj hm hid
      rw [hj, Option.some.injEq] at hm
      exact hnot (hm ▸ hc)
    · rfl
  rw [Tracker.place, hleft, ite_self]

/-- A submission has at most one monitor that watches it, and that has the registered claim; all others
that still run are aborted. A registered claim belongs to a running monitor, and a monitor whose claim is
not registered any more takes no claim away, however it ends. -/
theorem claims_follow_live_monitors {settings : TrackerSettings} {store : SubmissionStore}
    {xs : List TrackerAction} (h : (Tracker.empty settings store).run xs = some t) :
    (∀ i j m n, t.Watches i m → t.Watches j n → m.key = n.key → i = j) ∧
    (∀ i m, t.Watches i m → t.claims.get? m.key = some ⟨m.claim, m.signal⟩) ∧
    (∀ i m j n, t.Watches i m → t.monitors.get? j = some n → n.isRunning = true →
      n.key = m.key → j ≠ i → t.scopes.isAborted n.signal = true) ∧
    (∀ k c, t.claims.get? k = some c → ∃ i m, t.monitors.get? i = some m ∧ m.isRunning = true ∧
      m.key = k ∧ c = ⟨m.claim, m.signal⟩) ∧
    ∀ i m x t', t.monitors.get? i = some m →
      t.claims.get? m.key ≠ some ⟨m.claim, m.signal⟩ →
      (x = .kill i ∨ ∃ event, x = .step i event) → t.act x = some t' → t'.claims = t.claims := by
  have ht := sound_of_run h
  refine ⟨fun i j m n hi hj hkey => ht.watches_unique hi hj hkey,
    fun i m hi => ht.claim_of_watches hi, ?_, fun k c hc => ht.owner hc, ?_⟩
  · intro i m j n hi hj hn hkey hne
    by_contra hlive
    exact hne (ht.watches_unique ⟨hj, hn, Bool.eq_false_iff.mpr hlive⟩ hi hkey)
  · rintro i m x t' hm hnot (rfl | ⟨event, rfl⟩) hact
    · obtain ⟨-, rfl⟩ := running_of_kill hm hact
      exact ht.claims_place hm (m.same_finish _) hnot
    · obtain ⟨t₁, m', hturn, rfl⟩ := turns_of_step hm hact
      have hw := hturn.writes
      rw [(ht.writes hw).claims_place (hw.monitors ▸ hm) hturn.same (hw.claims ▸ hnot), hw.claims]

/-- A monitor of an aborted scope still waits for finality while another one has taken its submission
over. -/
theorem claims_follow_live_monitors_of_takeover :
    ∃ t, (Tracker.empty ⟨10, none⟩ .ofLists).run
        [.acquire ⟨.replicate 1⟩, .add 0 ⟨.replicate 2⟩ .epoch, .step 0 .start, .release 0,
          .acquire ⟨.replicate 1⟩, .init 1] = some t ∧
      (t.monitors.get? 0).map Monitor.phase = some .awaitingFinality ∧
      (t.monitors.get? 1).map Monitor.phase = some .ready ∧
      ∀ i j m n, t.Watches i m → t.Watches j n → m.key = n.key → i = j := by
  have h : (Tracker.empty ⟨10, none⟩ .ofLists).run
      [.acquire ⟨.replicate 1⟩, .add 0 ⟨.replicate 2⟩ .epoch, .step 0 .start, .release 0,
        .acquire ⟨.replicate 1⟩, .init 1] = some _ := rfl
  exact ⟨_, h, by decide, by decide, (claims_follow_live_monitors h).1⟩

end ChainElection.Tracker
