import Mathlib.Tactic
import ChainElection.Proofs.Monitor.Claims
import ChainElection.Proofs.Session.Steps

/-!
Who holds the guards of a session.

* `Session.Holds`: the session is connected, or a vote is under way, under a
  connection. `Connection.Guarded`: the guard of a connection is alive.
* `Session.Sound` is the invariant: whatever connection is held, its guard is
  alive, and it is a guard of its account.
* `Sound.letGo` keeps it because a guard is released only when nobody holds it;
  `Sound.act` and `sound_of_run` follow.
-/

namespace ChainElection

/-- The guard of a connection is alive, and it is one of the connection's account. -/
def Connection.Guarded (c : Connection) (t : Tracker) : Prop :=
  ∃ σ, t.scopes.guards.get? c.guard = some ⟨c.account, σ⟩

namespace Tracker

variable {t t' : Tracker} {g : ℕ} {guard : Guard}

/-- A guard stays alive until it is released. -/
lemma Sound.act_guard (ht : t.Sound) {x : TrackerAction} (hact : t.act x = some t')
    (hg : t.scopes.guards.get? g = some guard) (hx : x ≠ .release g) :
    t'.scopes.guards.get? g = some guard := by
  rcases act_scopes hact with ⟨a, -, hscopes⟩ | ⟨k, rfl, hscopes⟩ | hscopes <;> rw [hscopes]
  · have hne : t.scopes.nextGuard ≠ g := (ht.scopes.guard_lt hg).ne'
    rw [Scopes.acquire_guards, Table.get?_set, if_neg hne, hg]
  · have hne : k ≠ g := fun hk => hx (hk ▸ rfl)
    rw [Scopes.get?_release_guards, if_neg hne, hg]
  · exact hg

end Tracker

namespace Session

variable {s s' : Session} {id g : ℕ} {v : Vote} {c : Connection} {x : SessionAction} {t : Tracker}

/-- The session is connected, or a vote is under way, under a connection. -/
inductive Holds (s : Session) (c : Connection) : Prop where
  | connected (hc : s.connection = some c)
  | voting {id : ℕ} {v : Vote} (hv : s.votes.get? id = some v) (hc : v.connection? = some c)

/-- What is held is found when a guard is to be released. -/
lemma Holds.holdsGuard (h : s.Holds c) : s.holdsGuard c.guard = true := by
  rw [Session.holdsGuard, Bool.or_eq_true]
  cases h with
  | connected hc =>
      left
      rw [hc]
      exact beq_self_eq_true c.guard
  | @voting id v hv hc =>
      right
      refine List.any_eq_true.mpr ⟨v, Table.mem_values_of_get? hv, ?_⟩
      rw [hc]
      exact beq_self_eq_true c.guard

/-- The invariant of guards and votes. -/
structure Sound (s : Session) : Prop where
  tracker : s.tracker.Sound
  guarded : ∀ {c}, s.Holds c → c.Guarded s.tracker
  vote_lt : ∀ {id v}, s.votes.get? id = some v → id < s.nextVote

lemma Sound.new (contract : ElectionContract) (settings : TrackerSettings)
    (store : SubmissionStore) : (Session.new contract (.empty settings store)).Sound where
  tracker := .empty settings store
  guarded := fun h => by
    cases h with
    | connected hc => cases hc
    | voting hv _ => cases hv
  vote_lt := fun h => by cases h

/-- What is held depends on the connection and the votes only. -/
lemma Holds.of_eq (h : s'.Holds c) (hconnection : s'.connection = s.connection)
    (hvotes : s'.votes = s.votes) : s.Holds c := by
  cases h with
  | connected hc => exact .connected (hconnection ▸ hc)
  | voting hv hc => exact .voting (hvotes ▸ hv) hc

/-- The invariant stays as long as nobody holds more than before. -/
lemma Sound.of_holds (hs : s.Sound) (htracker : s'.tracker = s.tracker)
    (hholds : ∀ {c}, s'.Holds c → s.Holds c)
    (hlt : ∀ {id v}, s'.votes.get? id = some v → id < s'.nextVote) : s'.Sound where
  tracker := htracker ▸ hs.tracker
  guarded := fun h => htracker ▸ hs.guarded (hholds h)
  vote_lt := hlt

/-- The tracker may go on as long as it keeps the guards. -/
lemma Sound.withTracker (hs : s.Sound) (ht : t.Sound)
    (hguards : ∀ {c}, s.Holds c → c.Guarded s.tracker → c.Guarded t) :
    ({ s with tracker := t } : Session).Sound where
  tracker := ht
  guarded := by
    intro c h
    have hholds : s.Holds c := h.of_eq rfl rfl
    exact hguards hholds (hs.guarded hholds)
  vote_lt := hs.vote_lt

/-- A guard is released only when nobody holds it. -/
lemma Sound.letGo (hs : s.Sound) (g : ℕ) : (s.letGo g).Sound := by
  rcases letGo_cases s g with ⟨-, h⟩ | ⟨hnot, h⟩ <;> rw [h]
  · exact hs
  · refine hs.withTracker (hs.tracker.release g) fun {c} hholds hc => ?_
    obtain ⟨σ, hσ⟩ := hc
    have hne : g ≠ c.guard := by
      rintro rfl
      rw [hholds.holdsGuard] at hnot
      cases hnot
    exact ⟨σ, (Scopes.get?_release_guards c.guard).trans (by rw [if_neg hne, hσ])⟩

/-- The guard of a vote's connection is alive, and it is one of the connection's account. -/
lemma Sound.guard_eq (hs : s.Sound) (hv : s.votes.get? id = some v) (hc : v.connection? = some c)
    {guard : Option Guard} (hg : s.tracker.scopes.guards.get? c.guard = guard) :
    ∃ σ, guard = some ⟨c.account, σ⟩ := by
  obtain ⟨σ, hσ⟩ := hs.guarded (.voting hv hc)
  exact ⟨σ, hg.symm.trans hσ⟩

/-! ### Connections -/

lemma Sound.reconnect (hs : s.Sound) {c : Option Connection}
    (hc : ∀ c', c = some c' → c'.Guarded s.tracker) : (s.reconnect c).Sound := by
  have hs' : ({ s with connection := c } : Session).Sound := by
    refine ⟨hs.tracker, fun {c'} h => ?_, hs.vote_lt⟩
    cases h with
    | connected hc' => exact hc c' hc'
    | voting hv hc' => exact hs.guarded (.voting hv hc')
  rcases reconnect_cases s c with ⟨-, h⟩ | ⟨o, -, h⟩ <;> rw [h]
  · exact hs'
  · exact hs'.letGo o.guard

/-- Guards that are alive stay so when one more is taken. -/
lemma Sound.guarded_acquire (hs : s.Sound) (a : Account) (hc : c.Guarded s.tracker) :
    c.Guarded (s.tracker.acquire a).2 ∧ s.tracker.scopes.nextGuard ≠ c.guard := by
  obtain ⟨σ, hσ⟩ := hc
  refine ⟨⟨σ, ?_⟩, (hs.tracker.scopes.guard_lt hσ).ne'⟩
  exact hs.tracker.act_guard (x := .acquire a) rfl hσ (by simp)

lemma Sound.connect (hs : s.Sound) (wallet : ℕ) (a : Account) : (s.connect wallet a).2.Sound := by
  have ht := hs.tracker.acquire a
  have hg := get?_acquire_guard s a
  rcases connect_cases s wallet a with ⟨e, -, h⟩ | ⟨ms, t, hinit, h⟩ <;> rw [h]
  · refine hs.withTracker (ht.release _) fun {c} _ hc => ?_
    obtain ⟨⟨σ, hσ⟩, hne⟩ := hs.guarded_acquire a hc
    exact ⟨σ, (Scopes.get?_release_guards c.guard).trans (by rw [if_neg hne, hσ])⟩
  · have hact := Tracker.act_init hg hinit
    have hs' : ({ s with tracker := t } : Session).Sound := by
      refine hs.withTracker (ht.act hact) fun {c} _ hc => ?_
      obtain ⟨⟨σ, hσ⟩, -⟩ := hs.guarded_acquire a hc
      exact ⟨σ, ht.act_guard hact hσ (by simp)⟩
    refine hs'.reconnect fun c' hc' => ?_
    cases hc'
    exact ⟨_, ht.act_guard hact hg (by simp)⟩

/-! ### Votes -/

/-- A vote that is put on its way holds nothing yet. -/
lemma Sound.cast (hs : s.Sound) (b : Ballot) : (s.castVote b).2.Sound := by
  have hget : ∀ {k w}, (s.castVote b).2.votes.get? k = some w →
      s.nextVote = k ∧ w = ⟨b, .ready⟩ ∨ s.votes.get? k = some w := by
    intro k w hk
    have hk' : (s.votes.set s.nextVote ⟨b, .ready⟩).get? k = some w := hk
    rw [Table.get?_set] at hk'
    split at hk'
    · rename_i hid
      exact .inl ⟨hid, (Option.some.inj hk').symm⟩
    · exact .inr hk'
  refine hs.of_holds rfl (fun {c} h => ?_) fun {k w} hk => ?_
  · cases h with
    | connected hc => exact .connected hc
    | voting hk hc =>
        rcases hget hk with ⟨-, rfl⟩ | hold
        · cases hc
        · exact .voting hold hc
  · rcases hget hk with ⟨hid, -⟩ | hold
    · exact hid ▸ Nat.lt_succ_self _
    · exact Nat.lt_succ_of_lt (hs.vote_lt hold)

/-- A vote may go to any phase in which it holds nothing but what is held already. -/
lemma Sound.goTo (hs : s.Sound) (hv : s.votes.get? id = some v) {phase : VotePhase}
    (hphase : ∀ {c}, ({ v with phase := phase } : Vote).connection? = some c → s.Holds c) :
    (s.goTo id v phase).Sound := by
  refine hs.of_holds rfl (fun {c} h => ?_) fun {k w} hk => ?_
  · cases h with
    | connected hc => exact .connected hc
    | @voting k w hk hc =>
        have hk' : (s.votes.set id { v with phase := phase }).get? k = some w := hk
        rw [Table.get?_set] at hk'
        split at hk'
        · cases hk'
          exact hphase hc
        · exact .voting hk' hc
  · have hk' : (s.votes.set id { v with phase := phase }).get? k = some w := hk
    rw [Table.get?_set] at hk'
    split at hk'
    · rename_i hid
      exact hid ▸ hs.vote_lt hv
    · exact hs.vote_lt hk'

lemma Sound.endVote (hs : s.Sound) (hv : s.votes.get? id = some v) (c : Connection)
    (r : VoteResult) : (s.endVote id v c r).Sound := by
  have hended : (s.goTo id v (.ended r)).Sound := hs.goTo hv fun h => by cases h
  exact hended.letGo c.guard

/-- Whatever a vote does keeps the invariant. -/
lemma Sound.moves (hs : s.Sound) (hv : s.votes.get? id = some v) (h : VoteMoves s id v s') :
    s'.Sound := by
  cases h with
  | refused _ _ => exact hs.goTo hv fun h => by cases h
  | @asked c _ hc =>
      -- the vote takes along what the session is connected by
      have hasked : (s.goTo id v (.dryRunning c)).Sound := hs.goTo hv fun h => by
        cases h
        exact .connected hc
      exact hasked.of_holds rfl (fun h => h.of_eq rfl rfl) hasked.vote_lt
  | @handedOver c _ p hphase _ =>
      have hheld : v.connection? = some c := by rw [Vote.connection?, hphase]
      have hsigning : (s.goTo id v (.signing c)).Sound := hs.goTo hv fun h => by
        cases h
        exact .voting hv hheld
      exact hsigning.of_holds rfl (fun h => h.of_eq rfl rfl) hsigning.vote_lt
  | @ended c t _ ht r =>
      have hs' : ({ s with tracker := t } : Session).Sound := by
        rcases ht with rfl | ⟨guard, h, now, started, hg, hadd⟩
        · exact hs
        · have hact := Tracker.act_add hg hadd
          refine hs.withTracker (hs.tracker.act hact) fun {c} _ hc => ?_
          obtain ⟨σ, hσ⟩ := hc
          exact ⟨σ, hs.tracker.act_guard hact hσ (by simp)⟩
      exact hs'.endVote hv c r

/-! ### Runs -/

/-- Whatever happens keeps the invariant. -/
theorem Sound.act (hs : s.Sound) (h : s.act x = some s') : s'.Sound := by
  cases x with
  | connect wallet a =>
      cases h
      exact hs.connect wallet a
  | disconnect =>
      cases h
      exact hs.reconnect fun c' hc' => by cases hc'
  | refresh =>
      cases h
      exact hs.of_holds rfl (fun h => h.of_eq rfl rfl) hs.vote_lt
  | endRefresh k answer =>
      rw [endRefresh_cases h]
      exact hs.of_holds rfl (fun h => h.of_eq rfl rfl) hs.vote_lt
  | cast b =>
      cases h
      exact hs.cast b
  | vote k event now =>
      obtain ⟨v, hv, hturns⟩ := stepVote_cases h
      exact hs.moves hv hturns.moves
  | track y =>
      rw [Session.act] at h
      split at h
      · rename_i hmay
        obtain ⟨t, hact, rfl⟩ := Option.map_eq_some_iff.mp h
        refine hs.withTracker (hs.tracker.act hact) fun {c} hholds hc => ?_
        obtain ⟨σ, hσ⟩ := hc
        refine ⟨σ, hs.tracker.act_guard hact hσ ?_⟩
        -- nobody else releases a guard that is held
        rintro rfl
        rw [mayTrack, hholds.holdsGuard] at hmay
        cases hmay
      · cases h

theorem run_sound {xs : List SessionAction} (h : s.run xs = some s') (hs : s.Sound) : s'.Sound :=
  run_induction (P := Sound) (fun hact hsound => hsound.act hact) h hs

lemma sound_of_run {contract : ElectionContract} {settings : TrackerSettings}
    {store : SubmissionStore} {xs : List SessionAction}
    (h : (Session.new contract (.empty settings store)).run xs = some s) : s.Sound :=
  run_sound h (.new contract settings store)

end Session

end ChainElection
