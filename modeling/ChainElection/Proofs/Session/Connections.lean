import Mathlib.Tactic
import ChainElection.Proofs.Session.Departure

/-!
What connecting does, and what it leaves alone.

The guard of a new connection is taken before that of the old one is let go, and
it is given back if the account's monitoring cannot be resumed under it.

* `Session.switches` are the accounts that a run connects and leaves, in order;
  the last of them is the account of the session.
* `Session.Continues`: connecting the account that is connected already aborts
  nothing, not even for a moment, and nobody gets a second monitor.
* `Session.Untouched`: where connecting fails, everything is as before.
* `connections_hold_their_scopes` puts this together with the count of holders.
-/

namespace ChainElection

namespace Tracker

variable {t t' u : Tracker} {guard : Guard} {e : ClientError} {σ : ℕ}

/-- Monitoring cannot be resumed if the account's list cannot be loaded, and only then. -/
lemma init_eq_error_iff : t.init guard = .error e ↔ t.store.load guard.account = .error e := by
  rw [init]
  cases t.store.load guard.account with
  | error e' => simp only [Except.error.injEq]
  | ok ss => exact iff_of_false (by simp) (by simp)

/-- A signal that a run has left as it was has not been aborted in between. -/
lemma Sound.isAborted_between (ht : t.Sound) (hu : t.Reaches u) (hu' : u.Reaches t')
    (hσ : t'.scopes.isAborted σ = t.scopes.isAborted σ) :
    u.scopes.isAborted σ = t.scopes.isAborted σ := by
  obtain ⟨hsound, hfollows⟩ := ht.follows_of_reaches hu
  obtain ⟨-, hfollows'⟩ := hsound.follows_of_reaches hu'
  cases hbefore : t.scopes.isAborted σ with
  | true => exact hfollows.aborted hbefore
  | false => exact hfollows'.live (hσ.trans hbefore)

end Tracker

namespace Session

variable {s s' : Session} {a : Account} {o : Connection} {x : SessionAction} {w i g k : ℕ} {m : Monitor}
  {e : ClientError} {xs : List SessionAction} {r : Except ClientError (List ℕ)}

/-! ### The account -/

/-- What an event makes of the account: connecting brings another one unless it fails, disconnecting
brings none. -/
def switch? (s : Session) : SessionAction → Option (Option Account)
  | .connect w a =>
    match (s.connect w a).1 with
    | .ok _ => some (some a)
    | .error _ => none
  | .disconnect => some none
  | _ => none

/-- What a run makes of the account, one after the other. -/
def switches (s : Session) : List SessionAction → List (Option Account)
  | [] => []
  | x :: r =>
    match s.act x with
    | none => []
    | some s' => (s.switch? x).toList ++ s'.switches r

lemma account_act (h : s.act x = some s') : s'.account = (s.switch? x).getD s.account := by
  cases x with
  | connect w a =>
      cases h
      rcases connect_cases s w a with ⟨e, -, heq⟩ | ⟨ms, t, -, heq⟩
      · rw [switch?, heq]
        rfl
      · rw [switch?, heq, account_reconnect]
        rfl
  | disconnect =>
      cases h
      exact account_reconnect s none
  | refresh =>
      cases h
      rfl
  | endRefresh k answer =>
      rw [endRefresh_cases h]
      rfl
  | cast b =>
      cases h
      rfl
  | vote k event now =>
      obtain ⟨v, -, hturns⟩ := stepVote_cases h
      obtain ⟨phase, heq⟩ := hturns.moves.eq
      rw [heq]
      rfl
  | track y =>
      rw [act] at h
      split at h
      · obtain ⟨t, -, rfl⟩ := Option.map_eq_some_iff.mp h
        rfl
      · cases h

/-- The last switch of a run decides. -/
theorem account_run (h : s.run xs = some s') : s'.account = (s.switches xs).getLastD s.account := by
  induction xs generalizing s with
  | nil =>
      cases h
      rfl
  | cons x r ih =>
      obtain ⟨s₁, hx, hr⟩ := Option.bind_eq_some_iff.mp h
      rw [ih hr, account_act hx, switches, hx]
      cases s.switch? x with
      | none => rfl
      | some b => exact (List.getLastD_cons ..).symm

/-! ### Connecting once more -/

/-- Connecting the account that is connected already: no signal is aborted at any moment of it, those who
watch go on, and whoever is started is for a submission that nobody has watched. -/
structure Continues (s : Session) (a : Account) (r : Except ClientError (List ℕ)) (s' : Session) :
    Prop where
  live : ∀ {u}, s.tracker.Reaches u → u.Reaches s'.tracker → ∀ σ,
    u.scopes.isAborted σ = s.tracker.scopes.isAborted σ
  watches : ∀ {i m}, s.tracker.Watches i m → s'.tracker.Watches i m
  started : ∀ {i m}, s'.tracker.monitors.get? i = some m → s.tracker.monitors.get? i = some m ∨
    m.account = a ∧ (∃ ms, r = .ok ms ∧ i ∈ ms) ∧ s'.tracker.Watches i m ∧
      ∀ {j n}, s.tracker.Watches j n → n.key ≠ m.key

/-- A monitor that was there before connecting is there afterwards. -/
lemma Sound.connect_kept (hs : s.Sound) (h : s.connect w a = (r, s'))
    (hm : s.tracker.monitors.get? i = some m) : s'.tracker.monitors.get? i = some m := by
  rcases connect_cases s w a with ⟨e, -, heq⟩ | ⟨ms, t, hinit, heq⟩ <;> rw [h] at heq <;> cases heq
  · exact hm
  · obtain ⟨hashes, hstarts⟩ := Tracker.init_starts hinit
    rw [reconnect_monitors]
    exact (hstarts.kept (hs.tracker.monitor_lt hm)).trans hm

/-- A monitor that was not is one of those that resuming the account's monitoring starts. -/
lemma Sound.connect_started (hs : s.Sound) (h : s.connect w a = (r, s'))
    (hm : s'.tracker.monitors.get? i = some m) (hnone : s.tracker.monitors.get? i = none) :
    (∃ ms, r = .ok ms ∧ i ∈ ms) ∧ ∃ hash c, m = .fresh a hash (s.nextGuard a).signal c := by
  rcases connect_cases s w a with ⟨e, -, heq⟩ | ⟨ms, t, hinit, heq⟩ <;> rw [h] at heq <;> cases heq
  · cases hnone.symm.trans hm
  · obtain ⟨hashes, hstarts⟩ := Tracker.init_starts hinit
    rw [reconnect_monitors] at hm
    have hstarted := (hs.tracker.acquire a).init_fresh hinit hm
    rcases hstarts.fresh hm with hold | ⟨-, hash, -, c, rfl⟩
    · cases hnone.symm.trans hold
    · exact ⟨⟨ms, rfl, hstarted.resolve_left fun hold => by cases hnone.symm.trans hold⟩, hash, c, rfl⟩

/-- Leaving a connection aborts nothing if its account has another guard. -/
lemma isAborted_reconnect (hvalid : s.tracker.scopes.Valid) (ho : s.connection = some o) {τ : ℕ}
    (hold : s.tracker.scopes.guards.get? o.guard = some ⟨o.account, τ⟩)
    (hk : k ∈ s.tracker.scopes.guardsOf o.account) (hne : k ≠ o.guard) (c : Option Connection) (σ : ℕ) :
    (s.reconnect c).tracker.scopes.isAborted σ = s.tracker.scopes.isAborted σ := by
  rcases reconnect_cases s c with ⟨hnone, -⟩ | ⟨o', ho', h⟩
  · cases ho.symm.trans hnone
  · obtain rfl : o = o' := Option.some.inj (ho.symm.trans ho')
    rw [h]
    rcases letGo_cases { s with connection := c } o.guard with ⟨-, h⟩ | ⟨-, h⟩ <;> rw [h]
    exact hvalid.isAborted_release_of_others hold hk hne σ

/-- While both the old connection and the new one have a guard, the account has two. So whichever of them
goes, no signal is aborted. -/
lemma Sound.isAborted_connect (hs : s.Sound) (ha : s.account = some a) (h : s.connect w a = (r, s'))
    (σ : ℕ) : s'.tracker.scopes.isAborted σ = s.tracker.scopes.isAborted σ := by
  obtain ⟨o, ho, rfl⟩ := Option.map_eq_some_iff.mp ha
  obtain ⟨⟨τ, hold⟩, hne⟩ := hs.guarded_acquire o.account (hs.guarded (.connected ho))
  have hnew := get?_acquire_guard s o.account
  have hvalid : (s.tracker.acquire o.account).2.scopes.Valid := hs.tracker.scopes.acquire
  rcases connect_cases s w o.account with ⟨e, -, heq⟩ | ⟨ms, t, hinit, heq⟩ <;> rw [h] at heq <;>
    cases heq
  · exact hvalid.isAborted_release_of_others hnew (Scopes.mem_guardsOf.mpr ⟨_, hold, rfl⟩) hne.symm σ
  · have hscopes : t.scopes = (s.tracker.acquire o.account).2.scopes := Tracker.init_scopes hinit
    rw [← hscopes] at hvalid hold hnew
    have hkept := isAborted_reconnect (s := { s with tracker := t }) hvalid ho hold
      (Scopes.mem_guardsOf.mpr ⟨_, hnew, rfl⟩) hne
    calc _ = t.scopes.isAborted σ := hkept _ σ
      _ = (s.tracker.acquire o.account).2.scopes.isAborted σ := by rw [hscopes]
      _ = s.tracker.scopes.isAborted σ := rfl

lemma Sound.continues (hs : s.Sound) (ha : s.account = some a) (h : s.connect w a = (r, s')) :
    s.Continues a r s' := by
  have hlive := hs.isAborted_connect ha h
  have hs' : s'.Sound := by
    have hconnect := hs.connect w a
    rwa [h] at hconnect
  have hwatches : ∀ {i m}, s.tracker.Watches i m → s'.tracker.Watches i m := fun hm =>
    ⟨hs.connect_kept h hm.found, hm.running, (hlive _).trans hm.live⟩
  refine ⟨fun hu hu' σ => hs.tracker.isAborted_between hu hu' (hlive σ), hwatches, fun {i m} hm => ?_⟩
  cases hold : s.tracker.monitors.get? i with
  | some n => exact .inl ((hs.connect_kept h hold).symm.trans hm)
  | none =>
      -- whoever watched the submission before would watch it together with the new monitor
      obtain ⟨hstarted, hash, c, rfl⟩ := hs.connect_started h hm hold
      have hwatch : s'.tracker.Watches i (.fresh a hash (s.nextGuard a).signal c) :=
        ⟨hm, rfl, (hlive _).trans hs.tracker.scopes.isAborted_joined⟩
      refine .inr ⟨rfl, hstarted, hwatch, fun {j n} hn hkey => ?_⟩
      obtain rfl := hs'.tracker.watches_unique (hwatches hn) hwatch hkey
      cases hold.symm.trans hn.found

/-! ### Connecting in vain -/

/-- What is left as it was: everything but the scopes, and of these the scope and the guards of every
account, and every signal that has been made before. -/
structure Untouched (s s' : Session) : Prop where
  eq : s' = { s with tracker := { s.tracker with scopes := s'.tracker.scopes } }
  scopes : ∀ b, s'.tracker.scopes.scopes.get? b = s.tracker.scopes.scopes.get? b
  guards : ∀ g, s'.tracker.scopes.guards.get? g = s.tracker.scopes.guards.get? g
  holders : ∀ b, s'.tracker.scopes.holders b = s.tracker.scopes.holders b
  aborted : ∀ {σ}, σ < s.tracker.scopes.nextSignal →
    s'.tracker.scopes.isAborted σ = s.tracker.scopes.isAborted σ

/-- Connecting fails if the account's list cannot be loaded, and only then. -/
lemma connect_eq_error_iff (s : Session) (w : ℕ) (a : Account) (e : ClientError) :
    (s.connect w a).1 = .error e ↔ s.tracker.store.load a = .error e := by
  have hload : (s.tracker.acquire a).2.init (s.nextGuard a) = .error e ↔
      s.tracker.store.load a = .error e := Tracker.init_eq_error_iff
  rw [← hload]
  rcases connect_cases s w a with ⟨e', hinit, heq⟩ | ⟨ms, t, hinit, heq⟩ <;> rw [hinit, heq]
  · simp only [Except.error.injEq]
  · exact iff_of_false (by simp) (by simp)

/-- The guard that was taken is given back. -/
lemma Sound.untouched (hs : s.Sound) (h : (s.connect w a).1 = .error e) :
    s.Untouched (s.connect w a).2 := by
  have hvalid := hs.tracker.scopes
  rcases connect_cases s w a with ⟨e', -, heq⟩ | ⟨ms, t, -, heq⟩ <;> rw [heq] at h ⊢
  · exact ⟨rfl, hvalid.get?_giveBack_scopes a, hvalid.get?_giveBack_guards a,
      fun b => Scopes.holders_congr (hvalid.get?_giveBack_scopes a b), hvalid.isAborted_giveBack a⟩
  · cases h

/-! ### Runs -/

/-- After every run the account of the session is that of its last switch, and the holders of an account
are the guards that others have and the connections that the session or a vote holds. Connecting the
account once more aborts nothing and starts no second monitor. Connecting fails exactly when the account's
list cannot be loaded, and then everything is as before. -/
theorem connections_hold_their_scopes {contract : ElectionContract} {settings : TrackerSettings}
    {store : SubmissionStore} (h₀ : (Session.new contract (.empty settings store)).run xs = some s) :
    s.account = ((Session.new contract (.empty settings store)).switches xs).getLastD none ∧
    (∀ a, s.tracker.scopes.holders a = (outsideGuards xs a).card + (s.connectionsTo a).card) ∧
    (∀ w a r s', s.account = some a → s.connect w a = (r, s') → s.Continues a r s') ∧
    ∀ w a e, ((s.connect w a).1 = .error e ↔ s.tracker.store.load a = .error e) ∧
      ((s.connect w a).1 = .error e → s.Untouched (s.connect w a).2) := by
  have hs := sound_of_run h₀
  exact ⟨account_run h₀, (tallies_of_run h₀).holders_eq hs, fun w a r s' ha h => hs.continues ha h,
    fun w a e => ⟨connect_eq_error_iff s w a e, hs.untouched⟩⟩

/-- An account with a pending submission is connected for the second time while a vote is under way, and
someone else has a guard of it. It is connected once more, and then another account in vain. -/
theorem connections_hold_their_scopes_of_switches :
    ∃ s s' u, (Session.new ⟨⟨0, 0⟩, "election"⟩ (.empty ⟨10, none⟩ .ofLists)).run
        [.connect 0 ⟨.replicate 1⟩, .cast ⟨[true]⟩, .vote 0 .start .epoch,
          .vote 0 (.dryRun (.ok (.success ⟨5⟩ none))) .epoch,
          .vote 0 (.signed (.ok ⟨.replicate 3⟩)) .epoch, .cast ⟨[true]⟩, .vote 1 .start .epoch,
          .track (.acquire ⟨.replicate 1⟩), .connect 1 ⟨.replicate 1⟩] = some s ∧
      s.account = some ⟨.replicate 1⟩ ∧ s.tracker.scopes.holders ⟨.replicate 1⟩ = 1 + 2 ∧
      s.connect 2 ⟨.replicate 1⟩ = (.ok [], s') ∧ s.Continues ⟨.replicate 1⟩ (.ok []) s' ∧
      s'.tracker.store.contents ⟨.replicate 1⟩ = .ok [⟨⟨.replicate 3⟩, .committed, .epoch⟩] ∧
      s'.run [.track (.upset (some .storage) none none)] = some u ∧
      (u.connect 3 ⟨.replicate 2⟩).1 = .error .storage ∧
      u.Untouched (u.connect 3 ⟨.replicate 2⟩).2 := by
  have h : (Session.new ⟨⟨0, 0⟩, "election"⟩ (.empty ⟨10, none⟩ .ofLists)).run
      [.connect 0 ⟨.replicate 1⟩, .cast ⟨[true]⟩, .vote 0 .start .epoch,
        .vote 0 (.dryRun (.ok (.success ⟨5⟩ none))) .epoch,
        .vote 0 (.signed (.ok ⟨.replicate 3⟩)) .epoch, .cast ⟨[true]⟩, .vote 1 .start .epoch,
        .track (.acquire ⟨.replicate 1⟩), .connect 1 ⟨.replicate 1⟩] = some _ := rfl
  have h' : (Session.new ⟨⟨0, 0⟩, "election"⟩ (.empty ⟨10, none⟩ .ofLists)).run
      [.connect 0 ⟨.replicate 1⟩, .cast ⟨[true]⟩, .vote 0 .start .epoch,
        .vote 0 (.dryRun (.ok (.success ⟨5⟩ none))) .epoch,
        .vote 0 (.signed (.ok ⟨.replicate 3⟩)) .epoch, .cast ⟨[true]⟩, .vote 1 .start .epoch,
        .track (.acquire ⟨.replicate 1⟩), .connect 1 ⟨.replicate 1⟩, .connect 2 ⟨.replicate 1⟩,
        .track (.upset (some .storage) none none)] = some _ := rfl
  obtain ⟨haccount, hholders, hcontinues, -⟩ := connections_hold_their_scopes h
  obtain ⟨-, -, -, hfails⟩ := connections_hold_their_scopes h'
  have herror := (hfails 3 ⟨.replicate 2⟩ .storage).1.mpr rfl
  exact ⟨_, _, _, h, haccount, (hholders ⟨.replicate 1⟩).trans (by decide), rfl,
    hcontinues 2 ⟨.replicate 1⟩ _ _ haccount rfl, by decide, rfl, herror,
    (hfails 3 ⟨.replicate 2⟩ .storage).2 herror⟩

end Session

end ChainElection
