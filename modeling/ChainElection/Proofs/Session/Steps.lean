import Mathlib.Tactic
import ChainElection.Proofs.Monitor.Steps
import ChainElection.Proofs.Monitor.Scopes
import ChainElection.Session.Run

/-!
What the steps of a session do.

* `letGo_cases`, `connect_cases`: all that releasing a guard and connecting a
  wallet can come to.
* `Session.VoteTurns` lists all that a vote can do next; `stepVote_cases` says
  that there is nothing else. `Session.VoteMoves` is what this comes to for the
  session, in fewer cases.
* `act_votes`: an event concerns no vote but the one that it lets go on.
* `run_reaches`: what a session does to its tracker in a run is a run of the
  tracker.
-/

namespace ChainElection.Session

variable {s s' : Session} {id g : ℕ} {v : Vote} {c : Connection} {x : SessionAction}

/-! ### Letting go of a guard -/

lemma letGo_cases (s : Session) (g : ℕ) :
    s.holdsGuard g = true ∧ s.letGo g = s ∨
      s.holdsGuard g = false ∧ s.letGo g = { s with tracker := s.tracker.release g } := by
  rw [letGo]
  cases s.holdsGuard g with
  | true => exact .inl ⟨rfl, rfl⟩
  | false => exact .inr ⟨rfl, rfl⟩

/-- Letting go of a guard concerns the tracker only. -/
lemma letGo_eq (s : Session) (g : ℕ) : s.letGo g = { s with tracker := (s.letGo g).tracker } := by
  rcases letGo_cases s g with ⟨-, h⟩ | ⟨-, h⟩ <;> rw [h]

/-- The lists do not depend on who holds guards. -/
lemma letGo_store (s : Session) (g : ℕ) : (s.letGo g).tracker.store = s.tracker.store := by
  rcases letGo_cases s g with ⟨-, h⟩ | ⟨-, h⟩ <;> rw [h]
  rfl

lemma letGo_monitors (s : Session) (g : ℕ) :
    (s.letGo g).tracker.monitors = s.tracker.monitors := by
  rcases letGo_cases s g with ⟨-, h⟩ | ⟨-, h⟩ <;> rw [h]
  rfl

/-- A new connection takes the place of the old one, and the guard of the old one is let go. -/
lemma reconnect_cases (s : Session) (c : Option Connection) :
    s.connection = none ∧ s.reconnect c = { s with connection := c } ∨
      ∃ o, s.connection = some o ∧
        s.reconnect c = ({ s with connection := c } : Session).letGo o.guard := by
  rw [reconnect]
  cases s.connection with
  | none => exact .inl ⟨rfl, rfl⟩
  | some o => exact .inr ⟨o, rfl, rfl⟩

/-- Connections concern themselves and the tracker only. -/
lemma reconnect_eq (s : Session) (c : Option Connection) :
    s.reconnect c = { s with connection := c, tracker := (s.reconnect c).tracker } := by
  rcases reconnect_cases s c with ⟨-, h⟩ | ⟨o, -, h⟩ <;> rw [h]
  rw [letGo_eq]

lemma reconnect_monitors (s : Session) (c : Option Connection) :
    (s.reconnect c).tracker.monitors = s.tracker.monitors := by
  rcases reconnect_cases s c with ⟨-, h⟩ | ⟨o, -, h⟩ <;> rw [h]
  rw [letGo_monitors]

/-- The guard that a new connection of an account gets. -/
def nextGuard (s : Session) (a : Account) : Guard := ⟨a, (s.tracker.scopes.joined a).signal⟩

lemma get?_acquire_guards (s : Session) (a : Account) (k : ℕ) :
    (s.tracker.acquire a).2.scopes.guards.get? k =
      if s.tracker.scopes.nextGuard = k then some (s.nextGuard a)
      else s.tracker.scopes.guards.get? k := by
  have hguards : (s.tracker.acquire a).2.scopes.guards =
      s.tracker.scopes.guards.set s.tracker.scopes.nextGuard (s.nextGuard a) :=
    Scopes.acquire_guards
  rw [hguards, Table.get?_set]

lemma get?_acquire_guard (s : Session) (a : Account) :
    (s.tracker.acquire a).2.scopes.guards.get? s.tracker.scopes.nextGuard = some (s.nextGuard a) := by
  rw [get?_acquire_guards, if_pos rfl]

/-- Connecting takes a guard first. If monitoring cannot be resumed under it, it is released again. -/
lemma connect_cases (s : Session) (wallet : ℕ) (a : Account) :
    (∃ e, (s.tracker.acquire a).2.init (s.nextGuard a) = .error e ∧
      s.connect wallet a = (.error e,
        { s with tracker := (s.tracker.acquire a).2.release s.tracker.scopes.nextGuard })) ∨
    ∃ ms t, (s.tracker.acquire a).2.init (s.nextGuard a) = .ok (ms, t) ∧
      s.connect wallet a = (.ok ms,
        ({ s with tracker := t } : Session).reconnect
          (some ⟨wallet, a, s.tracker.scopes.nextGuard⟩)) := by
  have hguard : (s.tracker.acquire a).2.scopes.guards.get? (s.tracker.acquire a).1 =
      some (s.nextGuard a) := get?_acquire_guard s a
  rw [connect]
  simp only [hguard]
  cases hinit : (s.tracker.acquire a).2.init (s.nextGuard a) with
  | error e => exact .inl ⟨e, rfl, rfl⟩
  | ok r => exact .inr ⟨r.1, r.2, rfl, rfl⟩

lemma connect_eq (s : Session) (wallet : ℕ) (a : Account) :
    (s.connect wallet a).2 =
      { s with
        connection := (s.connect wallet a).2.connection
        tracker := (s.connect wallet a).2.tracker } := by
  rcases connect_cases s wallet a with ⟨e, -, h⟩ | ⟨ms, t, -, h⟩ <;> rw [h]
  rw [reconnect_eq]

/-! ### Votes -/

/-- What a vote can do next, by the event that lets it go on. -/
inductive VoteTurns (s : Session) (id : ℕ) (v : Vote) (now : ClockTime) : VoteEvent → Session → Prop where
  | unconnected (hphase : v.phase = .ready) (hc : s.connection = none) :
      VoteTurns s id v now .start (s.goTo id v (.ended (.error .notConnected)))
  | refused {c : Connection} {e : ClientError} (hphase : v.phase = .ready)
      (hc : s.connection = some c) (hrefused : admitted s.config now v.ballot = .error e) :
      VoteTurns s id v now .start (s.goTo id v (.ended (.error e)))
  | asked {c : Connection} (hphase : v.phase = .ready) (hc : s.connection = some c)
      (hadmitted : admitted s.config now v.ballot = .ok ()) :
      VoteTurns s id v now .start
        { s.goTo id v (.dryRunning c) with
          invoked := s.invoked ++ [s.contract.dryRun v.ballot c.account] }
  | stopped {c : Connection} {answer : Except ClientError InvokeResult} {e : ClientError}
      (hphase : v.phase = .dryRunning c)
      (hanswer : s.contract.afterDryRun v.ballot answer = .error e) :
      VoteTurns s id v now (.dryRun answer) (s.endVote id v c (.error e))
  | handedOver {c : Connection} {answer : Except ClientError InvokeResult} {p : UpdatePayload}
      (hphase : v.phase = .dryRunning c) (hanswer : s.contract.afterDryRun v.ballot answer = .ok p) :
      VoteTurns s id v now (.dryRun answer)
        { s.goTo id v (.signing c) with sent := s.sent ++ [(c.wallet, p)] }
  | unsigned {c : Connection} {e : ClientError} (hphase : v.phase = .signing c) :
      VoteTurns s id v now (.signed (.error e)) (s.endVote id v c (.error e))
  | unguarded {c : Connection} {h : TransactionHash} (hphase : v.phase = .signing c)
      (hg : s.tracker.scopes.guards.get? c.guard = none) :
      VoteTurns s id v now (.signed (.ok h)) (s.endVote id v c (.ok (h, none)))
  | unrecorded {c : Connection} {h : TransactionHash} {guard : Guard} {e : ClientError}
      (hphase : v.phase = .signing c) (hg : s.tracker.scopes.guards.get? c.guard = some guard)
      (hadd : s.tracker.add guard h now = .error e) :
      VoteTurns s id v now (.signed (.ok h)) (s.endVote id v c (.error e))
  | recorded {c : Connection} {h : TransactionHash} {guard : Guard} {started : Option ℕ} {t : Tracker}
      (hphase : v.phase = .signing c) (hg : s.tracker.scopes.guards.get? c.guard = some guard)
      (hadd : s.tracker.add guard h now = .ok (started, t)) :
      VoteTurns s id v now (.signed (.ok h))
        (({ s with tracker := t } : Session).endVote id v c (.ok (h, started)))

lemma startVote_turns {now : ClockTime} (hphase : v.phase = .ready) :
    VoteTurns s id v now .start (s.startVote id v now) := by
  rw [startVote]
  cases hc : s.connection with
  | none => exact .unconnected hphase hc
  | some c =>
      simp only
      cases hadmitted : admitted s.config now v.ballot with
      | error e => exact .refused hphase hc hadmitted
      | ok u => exact .asked hphase hc hadmitted

lemma afterDryRun_turns {now : ClockTime} (hphase : v.phase = .dryRunning c)
    (answer : Except ClientError InvokeResult) :
    VoteTurns s id v now (.dryRun answer) (s.afterDryRun id v c answer) := by
  rw [afterDryRun]
  cases hanswer : s.contract.afterDryRun v.ballot answer with
  | error e => exact .stopped hphase hanswer
  | ok p => exact .handedOver hphase hanswer

lemma afterSigning_turns {now : ClockTime} (hphase : v.phase = .signing c)
    (answer : Except ClientError TransactionHash) :
    VoteTurns s id v now (.signed answer) (s.afterSigning id v c now answer) := by
  cases answer with
  | error e => exact .unsigned hphase
  | ok h =>
      rw [afterSigning]
      cases hg : s.tracker.scopes.guards.get? c.guard with
      | none => exact .unguarded hphase hg
      | some guard =>
          simp only
          cases hadd : s.tracker.add guard h now with
          | error e => exact .unrecorded hphase hg hadd
          | ok r => exact .recorded hphase hg hadd

/-- A vote that is let go on does one of these. -/
lemma stepVote_cases {event : VoteEvent} {now : ClockTime} (h : s.stepVote id event now = some s') :
    ∃ v, s.votes.get? id = some v ∧ VoteTurns s id v now event s' := by
  rw [stepVote] at h
  split at h
  · cases h
  · rename_i v hv
    refine ⟨v, hv, ?_⟩
    split at h
    · rename_i hphase
      cases h
      exact startVote_turns hphase
    · rename_i hphase
      cases h
      exact afterDryRun_turns hphase _
    · rename_i hphase
      cases h
      exact afterSigning_turns hphase _
    · cases h

lemma endVote_eq (s : Session) (id : ℕ) (v : Vote) (c : Connection) (r : VoteResult) :
    s.endVote id v c r =
      { s with
        votes := s.votes.set id { v with phase := .ended r }
        tracker := (s.endVote id v c r).tracker } := by
  rw [endVote, letGo_eq]
  rfl

lemma endVote_store (s : Session) (id : ℕ) (v : Vote) (c : Connection) (r : VoteResult) :
    (s.endVote id v c r).tracker.store = s.tracker.store :=
  letGo_store _ _

lemma endVote_monitors (s : Session) (id : ℕ) (v : Vote) (c : Connection) (r : VoteResult) :
    (s.endVote id v c r).tracker.monitors = s.tracker.monitors :=
  letGo_monitors _ _

/-- What becomes of the session when a vote goes on, whatever it went on with: the vote is over before it
has held anything, it asks for its dry run, it hands its payload out, or it ends, after a submission may
have been added. -/
inductive VoteMoves (s : Session) (id : ℕ) (v : Vote) : Session → Prop where
  | refused (hphase : v.phase = .ready) (e : ClientError) :
      VoteMoves s id v (s.goTo id v (.ended (.error e)))
  | asked {c : Connection} (hphase : v.phase = .ready) (hc : s.connection = some c) :
      VoteMoves s id v
        { s.goTo id v (.dryRunning c) with
          invoked := s.invoked ++ [s.contract.dryRun v.ballot c.account] }
  | handedOver {c : Connection} {answer : Except ClientError InvokeResult} {p : UpdatePayload}
      (hphase : v.phase = .dryRunning c) (hanswer : s.contract.afterDryRun v.ballot answer = .ok p) :
      VoteMoves s id v { s.goTo id v (.signing c) with sent := s.sent ++ [(c.wallet, p)] }
  | ended {c : Connection} {t : Tracker} (hc : v.connection? = some c)
      (ht : t = s.tracker ∨ ∃ guard h now started,
        s.tracker.scopes.guards.get? c.guard = some guard ∧
          s.tracker.add guard h now = .ok (started, t)) (r : VoteResult) :
      VoteMoves s id v (({ s with tracker := t } : Session).endVote id v c r)

lemma VoteTurns.moves {event : VoteEvent} {now : ClockTime} (h : VoteTurns s id v now event s') :
    VoteMoves s id v s' := by
  cases h with
  | unconnected hphase _ => exact .refused hphase _
  | refused hphase _ _ => exact .refused hphase _
  | asked hphase hc _ => exact .asked hphase hc
  | handedOver hphase hanswer => exact .handedOver hphase hanswer
  | stopped hphase _ => exact .ended (by rw [Vote.connection?, hphase]) (.inl rfl) _
  | unsigned hphase => exact .ended (by rw [Vote.connection?, hphase]) (.inl rfl) _
  | unguarded hphase _ => exact .ended (by rw [Vote.connection?, hphase]) (.inl rfl) _
  | unrecorded hphase _ _ => exact .ended (by rw [Vote.connection?, hphase]) (.inl rfl) _
  | recorded hphase hg hadd =>
      exact .ended (by rw [Vote.connection?, hphase]) (.inr ⟨_, _, _, _, hg, hadd⟩) _

/-- A vote concerns the tracker, its own phase, and what is sent out. -/
lemma VoteMoves.eq (h : VoteMoves s id v s') :
    ∃ phase, s' =
      { s with
        votes := s.votes.set id { v with phase := phase }
        tracker := s'.tracker
        invoked := s'.invoked
        sent := s'.sent } := by
  cases h with
  | refused _ _ => exact ⟨_, rfl⟩
  | asked _ _ => exact ⟨_, rfl⟩
  | handedOver _ _ => exact ⟨_, rfl⟩
  | ended _ _ _ => exact ⟨_, by rw [endVote_eq]⟩

/-! ### Events -/

lemma endRefresh_cases {answer : Except ClientError InvokeResult} (h : s.endRefresh id answer = some s') :
    s' = { s with config := s'.config, refreshes := s'.refreshes } := by
  rw [endRefresh] at h
  split at h
  · cases h
    rfl
  · cases h

/-- An event that does not let a vote go on leaves it as it is. -/
lemma act_votes (h : s.act x = some s') (hid : id < s.nextVote)
    (hx : ∀ event now, x ≠ .vote id event now) : s'.votes.get? id = s.votes.get? id := by
  cases x with
  | connect wallet a =>
      cases h
      rw [connect_eq]
  | disconnect =>
      cases h
      rw [disconnect, reconnect_eq]
  | refresh =>
      cases h
      rfl
  | endRefresh k answer => rw [endRefresh_cases h]
  | cast b =>
      cases h
      have hne : s.nextVote ≠ id := hid.ne'
      exact (Table.get?_set ..).trans (if_neg hne)
  | vote k event now =>
      obtain ⟨v, -, hturns⟩ := stepVote_cases h
      obtain ⟨phase, heq⟩ := hturns.moves.eq
      have hne : k ≠ id := fun hk => hx event now (hk ▸ rfl)
      rw [heq, Table.get?_set, if_neg hne]
  | track y =>
      rw [act] at h
      split at h
      · obtain ⟨t, -, rfl⟩ := Option.map_eq_some_iff.mp h
        rfl
      · cases h

/-! ### The tracker's part -/

lemma reaches_letGo (s : Session) (g : ℕ) : s.tracker.Reaches (s.letGo g).tracker := by
  rcases letGo_cases s g with ⟨-, h⟩ | ⟨-, h⟩ <;> rw [h]
  · exact .refl _
  · exact s.tracker.reaches_release g

lemma reaches_reconnect (s : Session) (c : Option Connection) :
    s.tracker.Reaches (s.reconnect c).tracker := by
  rcases reconnect_cases s c with ⟨-, h⟩ | ⟨o, -, h⟩ <;> rw [h]
  · exact .refl _
  · exact reaches_letGo { s with connection := c } o.guard

lemma reaches_connect (s : Session) (wallet : ℕ) (a : Account) :
    s.tracker.Reaches (s.connect wallet a).2.tracker := by
  have hacquire := s.tracker.reaches_acquire a
  rcases connect_cases s wallet a with ⟨e, -, h⟩ | ⟨ms, t, hinit, h⟩ <;> rw [h]
  · exact hacquire.trans (Tracker.reaches_release _ _)
  · exact (hacquire.trans (.of_act (Tracker.act_init (get?_acquire_guard s a) hinit))).trans
      (reaches_reconnect { s with tracker := t } _)

lemma VoteMoves.reaches (h : VoteMoves s id v s') : s.tracker.Reaches s'.tracker := by
  cases h with
  | refused _ _ => exact .refl _
  | asked _ _ => exact .refl _
  | handedOver _ _ => exact .refl _
  | @ended c t _ ht r =>
      have hend : t.Reaches (({ s with tracker := t } : Session).endVote id v c r).tracker :=
        reaches_letGo (({ s with tracker := t } : Session).goTo id v _) _
      rcases ht with rfl | ⟨guard, h, now, started, hg, hadd⟩
      · exact hend
      · exact (Tracker.Reaches.of_act (Tracker.act_add hg hadd)).trans hend

/-- What an event of a session does to the tracker, a run of the tracker does too. -/
lemma act_reaches (h : s.act x = some s') : s.tracker.Reaches s'.tracker := by
  cases x with
  | connect wallet a =>
      cases h
      exact reaches_connect s wallet a
  | disconnect =>
      cases h
      exact reaches_reconnect s none
  | refresh =>
      cases h
      exact .refl _
  | endRefresh k answer =>
      rw [endRefresh_cases h]
      exact .refl _
  | cast b =>
      cases h
      exact .refl _
  | vote k event now =>
      obtain ⟨v, -, hturns⟩ := stepVote_cases h
      exact hturns.moves.reaches
  | track y =>
      rw [act] at h
      split at h
      · obtain ⟨t, hact, rfl⟩ := Option.map_eq_some_iff.mp h
        exact .of_act hact
      · cases h

/-! ### Runs -/

/-- What every event of a run keeps is kept by the run. -/
lemma run_induction {P : Session → Prop} (hact : ∀ {s s' x}, s.act x = some s' → P s → P s')
    {xs : List SessionAction} : ∀ {s s'}, s.run xs = some s' → P s → P s' := by
  induction xs with
  | nil =>
      intro s s' h hP
      cases h
      exact hP
  | cons x r ih =>
      intro s s' h hP
      obtain ⟨s₁, hx, hr⟩ := Option.bind_eq_some_iff.mp h
      exact ih hr (hact hx hP)

/-- What a session does to its tracker in a run is a run of the tracker. -/
theorem run_reaches {xs : List SessionAction} (h : s.run xs = some s') :
    s.tracker.Reaches s'.tracker :=
  run_induction (P := fun u => s.tracker.Reaches u.tracker)
    (fun hact hreaches => hreaches.trans (act_reaches hact)) h (.refl _)

end ChainElection.Session
