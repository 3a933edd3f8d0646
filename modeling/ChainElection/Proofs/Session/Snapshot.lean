import Mathlib.Tactic
import ChainElection.Proofs.Client.Reader
import ChainElection.Proofs.Client.Readings
import ChainElection.Proofs.Client.Submitter
import ChainElection.Proofs.Session.Votes

/-!
The configuration that a session knows, and all who ask for it at the same time.

Refreshes come to their ends in any order. A configuration is taken over in
whole, from one answer, or not at all.

* `ElectionConfig.ShownBy`: an answer shows a configuration. `Session.Refreshes`
  lists all that a refresh can come to, by its answer.
* `Session.Snapshot`: a session knows the configuration that was shown last.
  `act_config` is the step, `run_snapshot` the run.
* `Session.withSnapshot` gives a session another configuration and other
  refreshes. Nothing but the start of a vote looks at them:
  `act_withSnapshot`, `run_withSnapshot`.
* `Session.Detached`: what this means for a vote that has been started.
* `snapshots_are_swapped_whole` puts all of this together.
-/

namespace ChainElection

/-! ### What an answer shows -/

/-- The answer to the call of the configuration's view is a success whose value is the configuration as it
is written, with nothing missing and nothing left over. -/
def ElectionConfig.ShownBy (c : ElectionConfig) (answer : Except ClientError InvokeResult) : Prop :=
  ElectionConfig.codec.Fits c ∧
    ∃ energy, answer = .ok (.success energy (some (ElectionConfig.codec.encode c)))

lemma View.config?_eq_some_iff {answer : Except ClientError InvokeResult} {c : ElectionConfig} :
    View.config? answer = .ok (some c) ↔ c.ShownBy answer := by
  have hreading : View.config.IsReading View.config? := View.isReading_shown .config
  rcases answer with e | ⟨energy, _ | bs⟩ | ⟨energy, reason⟩
  · simp [hreading.error, ElectionConfig.ShownBy]
  · simp [hreading.missing, ElectionConfig.ShownBy]
  · simp [hreading.value, View.codec, ElectionConfig.ShownBy]
  · simp [hreading.failure, ElectionConfig.ShownBy]

/-! ### Events -/

namespace SessionAction

/-- Is the configuration asked for, or does an answer come? -/
def isOfRefresh : SessionAction → Bool
  | .refresh => true
  | .endRefresh _ _ => true
  | _ => false

/-- Does a vote start? -/
def isStart : SessionAction → Bool
  | .vote _ .start _ => true
  | _ => false

/-- A refresh ends with the configuration. -/
def Brings : SessionAction → ElectionConfig → Prop
  | .endRefresh _ answer, c => c.ShownBy answer
  | _, _ => False

lemma not_brings {x : SessionAction} (hx : x.isOfRefresh = false) (c : ElectionConfig) :
    ¬ x.Brings c := by
  intro hc
  cases x with
  | endRefresh _ _ => cases hx
  | _ => exact hc

end SessionAction

namespace Session

variable {s s' t : Session} {id : ℕ} {b : Ballot} {c : Connection} {x : SessionAction}
  {xs ys : List SessionAction} {config config' : Option ElectionConfig}
  {answer : Except ClientError InvokeResult} {r : RefreshResult} {now : ClockTime}

/-! ### Refreshes -/

/-- What a refresh comes to, by the configuration that is known and the answer: the configuration that is
known afterwards, and what is handed out. -/
inductive Refreshes (config : Option ElectionConfig) :
    Except ClientError InvokeResult → Option ElectionConfig → RefreshResult → Prop where
  | failed (e : ClientError) : Refreshes config (.error e) config (.error e)
  | unavailable (energy : Energy) (reason : String) :
      Refreshes config (.ok (.failure energy reason)) config (.ok config)
  | missing (energy : Energy) :
      Refreshes config (.ok (.success energy none)) config
        (.error (.malformedReturnValue View.config.entrypoint "missing return value"))
  | malformed {bs : List UInt8} (energy : Energy)
      (hbs : ∀ c, ElectionConfig.codec.Fits c → bs ≠ ElectionConfig.codec.encode c) (f : Binary.Fault) :
      Refreshes config (.ok (.success energy (some bs))) config
        (.error (.malformedReturnValue View.config.entrypoint f.message))
  | shown {answer : Except ClientError InvokeResult} {c : ElectionConfig} (h : c.ShownBy answer) :
      Refreshes config answer (some c) (.ok (some c))

lemma refreshed_of_shownBy (config : Option ElectionConfig) {c : ElectionConfig} (h : c.ShownBy answer) :
    refreshed config answer = (some c, .ok (some c)) := by
  rw [refreshed, View.config?_eq_some_iff.mpr h]

/-- A refresh comes to one of these. -/
lemma refreshes_refreshed (config : Option ElectionConfig) (answer : Except ClientError InvokeResult) :
    Refreshes config answer (refreshed config answer).1 (refreshed config answer).2 := by
  have hreading : View.config.IsReading View.config? := View.isReading_shown .config
  rcases answer with e | ⟨energy, _ | bs⟩ | ⟨energy, reason⟩
  · rw [refreshed, hreading.error]
    exact .failed e
  · rw [refreshed, hreading.missing]
    exact .missing energy
  · by_cases hbs : ∃ c, ElectionConfig.codec.Fits c ∧ bs = ElectionConfig.codec.encode c
    · obtain ⟨c, hfits, rfl⟩ := hbs
      have hshown : c.ShownBy (.ok (.success energy (some (ElectionConfig.codec.encode c)))) :=
        ⟨hfits, energy, rfl⟩
      rw [refreshed_of_shownBy config hshown]
      exact .shown hshown
    · have hbs' : ∀ c, ElectionConfig.codec.Fits c → bs ≠ ElectionConfig.codec.encode c :=
        fun c hfits heq => hbs ⟨c, hfits, heq⟩
      obtain ⟨f, hf⟩ := hreading.malformed energy bs hbs'
      rw [refreshed, hf]
      exact .malformed energy hbs' f
  · rw [refreshed, hreading.failure]
    exact .unavailable energy reason

/-- The configuration changes just if one is shown. -/
lemma Refreshes.config_eq (h : Refreshes config answer config' r) :
    (∃ c : ElectionConfig, c.ShownBy answer ∧ config' = some c) ∨
      (∀ c : ElectionConfig, ¬ c.ShownBy answer) ∧ config' = config := by
  cases h with
  | failed _ => exact .inr ⟨fun _ ⟨_, _, heq⟩ => (nomatch heq), rfl⟩
  | unavailable _ _ => exact .inr ⟨fun _ ⟨_, _, heq⟩ => (nomatch heq), rfl⟩
  | missing _ => exact .inr ⟨fun _ ⟨_, _, heq⟩ => (nomatch heq), rfl⟩
  | malformed _ hbs _ =>
      refine .inr ⟨fun c ⟨hfits, _, heq⟩ => ?_, rfl⟩
      cases heq
      exact hbs c hfits rfl
  | shown hc => exact .inl ⟨_, hc, rfl⟩

/-- The session after a refresh has come to its end. -/
def afterRefresh (s : Session) (id : ℕ) (config : Option ElectionConfig) (r : RefreshResult) : Session :=
  { s with config := config, refreshes := s.refreshes.set id (some r) }

/-- A refresh that is on its way can end with any answer. -/
lemma act_endRefresh (hid : s.refreshes.get? id = some none) (answer : Except ClientError InvokeResult) :
    s.act (.endRefresh id answer) =
      some (s.afterRefresh id (refreshed s.config answer).1 (refreshed s.config answer).2) := by
  rw [act, endRefresh, hid]
  rfl

lemma act_endRefresh_of_shownBy (hid : s.refreshes.get? id = some none) {c : ElectionConfig}
    (h : c.ShownBy answer) :
    s.act (.endRefresh id answer) = some (s.afterRefresh id (some c) (.ok (some c))) := by
  rw [act_endRefresh hid, refreshed_of_shownBy s.config h]

lemma pending_of_endRefresh (h : s.endRefresh id answer = some s') : s.refreshes.get? id = some none := by
  rw [endRefresh] at h
  split at h
  · assumption
  · cases h

/-- What happens to the configuration and to refreshes: one is started, one ends, or nothing. -/
lemma act_refreshes (h : s.act x = some s') :
    (x = .refresh ∧ s' = s.refresh.2) ∨
    (∃ id answer config r, x = .endRefresh id answer ∧ s.refreshes.get? id = some none ∧
      Refreshes s.config answer config r ∧ s' = s.afterRefresh id config r) ∨
    (x.isOfRefresh = false ∧ s'.config = s.config ∧ s'.refreshes = s.refreshes ∧
      s'.nextRefresh = s.nextRefresh) := by
  cases x with
  | refresh =>
      cases h
      exact .inl ⟨rfl, rfl⟩
  | endRefresh id answer =>
      have hid : s.refreshes.get? id = some none := pending_of_endRefresh h
      refine .inr (.inl ⟨id, answer, _, _, rfl, hid, refreshes_refreshed s.config answer, ?_⟩)
      exact Option.some.inj (h.symm.trans (act_endRefresh hid answer))
  | connect wallet a =>
      cases h
      rw [connect_eq]
      exact .inr (.inr ⟨rfl, rfl, rfl, rfl⟩)
  | disconnect =>
      cases h
      rw [disconnect, reconnect_eq]
      exact .inr (.inr ⟨rfl, rfl, rfl, rfl⟩)
  | cast b =>
      cases h
      exact .inr (.inr ⟨rfl, rfl, rfl, rfl⟩)
  | vote k event now =>
      obtain ⟨v, -, hturns⟩ := stepVote_cases h
      obtain ⟨phase, heq⟩ := hturns.moves.eq
      rw [heq]
      exact .inr (.inr ⟨rfl, rfl, rfl, rfl⟩)
  | track y =>
      rw [act] at h
      split at h
      · obtain ⟨t, -, rfl⟩ := Option.map_eq_some_iff.mp h
        exact .inr (.inr ⟨rfl, rfl, rfl, rfl⟩)
      · cases h

lemma run_cons {u : Session} (hact : s.act x = some u) (hrun : u.run xs = some s') :
    s.run (x :: xs) = some s' := Option.bind_eq_some_iff.mpr ⟨u, hact, hrun⟩

/-! ### The configuration that is known -/

/-- The configuration that is known after events, by the one before: it is the one that was shown last, or
still the one before if none has been shown. -/
inductive Snapshot (config : Option ElectionConfig) (xs : List SessionAction) :
    Option ElectionConfig → Prop where
  | kept (h : ∀ x ∈ xs, ∀ c, ¬ x.Brings c) : Snapshot config xs config
  | brought {before after : List SessionAction} {x : SessionAction} {c : ElectionConfig}
      (hxs : xs = before ++ x :: after) (hx : x.Brings c) (hafter : ∀ y ∈ after, ∀ d, ¬ y.Brings d) :
      Snapshot config xs (some c)

/-- An event that brings a configuration has it known, and others change nothing about it. -/
lemma act_config (h : s.act x = some s') :
    (∃ c, x.Brings c ∧ s'.config = some c) ∨ (∀ c, ¬ x.Brings c) ∧ s'.config = s.config := by
  rcases act_refreshes h with ⟨rfl, rfl⟩ | ⟨id, answer, config, r, rfl, -, hr, rfl⟩ | ⟨hx, hconfig, -⟩
  · exact .inr ⟨fun _ hc => hc, rfl⟩
  · exact hr.config_eq
  · exact .inr ⟨SessionAction.not_brings hx, hconfig⟩

/-- However refreshes overlap, the configuration that is known is the one that was shown last. -/
theorem run_snapshot (h : s.run xs = some s') : Snapshot s.config xs s'.config := by
  induction xs generalizing s with
  | nil =>
      cases h
      exact .kept (List.forall_mem_nil _)
  | cons x xs ih =>
      obtain ⟨s₁, hx, hxs⟩ := Option.bind_eq_some_iff.mp h
      have hrest := ih hxs
      generalize s'.config = config at hrest ⊢
      cases hrest with
      | brought heq hy hafter => exact .brought (by rw [heq, List.cons_append]) hy hafter
      | kept hnone =>
          -- nothing is shown later, so it is decided by the first event what is known
          rcases act_config hx with ⟨c, hc, hconfig⟩ | ⟨hnot, hconfig⟩ <;> rw [hconfig]
          · exact .brought (List.nil_append _).symm hc hnone
          · exact .kept (List.forall_mem_cons.mpr ⟨hnot, hnone⟩)

/-! ### What has been handed out -/

/-- Refreshes bear smaller numbers than the next one will. -/
def Numbered (s : Session) : Prop := ∀ id r, s.refreshes.get? id = some r → id < s.nextRefresh

lemma Numbered.act (hs : s.Numbered) (h : s.act x = some s') : s'.Numbered := by
  intro k q hk
  rcases act_refreshes h with ⟨-, rfl⟩ | ⟨id, answer, config, r, -, hid, -, rfl⟩ | ⟨-, -, hrefreshes, hnext⟩
  · have hk' : (s.refreshes.set s.nextRefresh none).get? k = some q := hk
    rw [Table.get?_set] at hk'
    split at hk'
    · rename_i heq
      exact heq ▸ Nat.lt_succ_self _
    · exact Nat.lt_succ_of_lt (hs k q hk')
  · have hk' : (s.refreshes.set id (some r)).get? k = some q := hk
    rw [Table.get?_set] at hk'
    split at hk'
    · rename_i heq
      exact heq ▸ hs id none hid
    · exact hs k q hk'
  · rw [hrefreshes] at hk
    exact hnext ▸ hs k q hk

/-- What a refresh has handed out stays what it was, whatever is asked for and shown afterwards. -/
lemma Numbered.act_handedOut (hs : s.Numbered) (h : s.act x = some s')
    (hid : s.refreshes.get? id = some (some r)) : s'.refreshes.get? id = some (some r) := by
  rcases act_refreshes h with ⟨-, rfl⟩ | ⟨k, answer, config, q, -, hk, -, rfl⟩ | ⟨-, -, hrefreshes, -⟩
  · have hne : s.nextRefresh ≠ id := (hs id _ hid).ne'
    exact (Table.get?_set ..).trans ((if_neg hne).trans hid)
  · have hne : k ≠ id := by
      rintro rfl
      rw [hid] at hk
      cases hk
    exact (Table.get?_set ..).trans ((if_neg hne).trans hid)
  · rw [hrefreshes, hid]

lemma Numbered.run (hs : s.Numbered) (h : s.run xs = some s') :
    s'.Numbered ∧ ∀ id r, s.refreshes.get? id = some (some r) → s'.refreshes.get? id = some (some r) :=
  run_induction
    (P := fun u => u.Numbered ∧
      ∀ id r, s.refreshes.get? id = some (some r) → u.refreshes.get? id = some (some r))
    (fun hact hu => ⟨hu.1.act hact, fun id r hid => hu.1.act_handedOut hact (hu.2 id r hid)⟩) h
    ⟨hs, fun _ _ hid => hid⟩

/-! ### What a vote looks at when it starts -/

/-- How a vote starts under a connection, by the configuration that is known then: it is refused out of
its time, or if it is not of the configuration's length, or if it cannot be written; otherwise it goes on
to its dry run. -/
inductive Checks (config : Option ElectionConfig) (now : Instant) (b : Ballot) (c : Connection) :
    VotePhase → Prop where
  | closed {e : ElectionConfig} (he : config = some e) (hphase : e.phase now ≠ .voting) :
      Checks config now b c (.ended (.error (.electionClosed (e.phase now))))
  | miscounted {e : ElectionConfig} (he : config = some e) (hphase : e.phase now = .voting)
      (hlength : b.selections.length ≠ e.candidates.length) :
      Checks config now b c
        (.ended (.error (.invalidBallot (.miscounted b.selections.length e.candidates.length))))
  | tooLong (he : ∀ e ∈ config, e.phase now = .voting ∧ b.selections.length = e.candidates.length)
      (hlength : UInt32.size ≤ b.selections.length) : Checks config now b c (.ended (.error .io))
  | passed (he : ∀ e ∈ config, e.phase now = .voting ∧ b.selections.length = e.candidates.length)
      (hlength : b.selections.length < UInt32.size) : Checks config now b c (.dryRunning c)

/-- A ballot that has passed the checks against the configuration has to be written. -/
lemma checks_writable (hadmitted : admitted config now b = b.writable)
    (he : ∀ e ∈ config, e.phase now = .voting ∧ b.selections.length = e.candidates.length) :
    (∃ e, admitted config now b = .error e ∧ Checks config now b c (.ended (.error e))) ∨
      admitted config now b = .ok () ∧ Checks config now b c (.dryRunning c) := by
  rw [hadmitted, Ballot.writable]
  split_ifs with hlength
  · exact .inr ⟨rfl, .passed he hlength⟩
  · exact .inl ⟨_, rfl, .tooLong he (Nat.le_of_not_lt hlength)⟩

lemma checks_admitted (config : Option ElectionConfig) (now : ClockTime) (b : Ballot) (c : Connection) :
    (∃ e, admitted config now b = .error e ∧ Checks config now b c (.ended (.error e))) ∨
      admitted config now b = .ok () ∧ Checks config now b c (.dryRunning c) := by
  cases config with
  | none => exact checks_writable rfl (by simp)
  | some e =>
      by_cases hphase : e.phase now = .voting
      · by_cases hlength : b.selections.length = e.candidates.length
        · refine checks_writable ?_ fun d hd => ?_
          · rw [admitted, ElectionConfig.admit_of_counted hphase hlength]
          · cases hd
            exact ⟨hphase, hlength⟩
        · refine .inl ⟨_, ?_, .miscounted rfl hphase hlength⟩
          rw [admitted, ElectionConfig.admit_of_miscounted hphase hlength]
      · refine .inl ⟨_, ?_, .closed rfl hphase⟩
        rw [admitted, ElectionConfig.admit_of_closed b hphase]

/-- A vote that is started makes its checks, against the configuration that is known at this moment. -/
lemma checks_of_start (hv : s.votes.get? id = some ⟨b, .ready⟩) (hc : s.connection = some c)
    (now : ClockTime) :
    ∃ phase s', s.act (.vote id .start now) = some s' ∧ Checks s.config now b c phase ∧
      s'.votes.get? id = some ⟨b, phase⟩ ∧ s'.config = s.config := by
  have hact : s.act (.vote id .start now) = some (s.startVote id ⟨b, .ready⟩ now) := by
    rw [act, stepVote, hv]
  rcases checks_admitted s.config now b c with ⟨e, hadmitted, hchecks⟩ | ⟨hadmitted, hchecks⟩
  · refine ⟨_, _, hact, hchecks, ?_⟩
    rw [startVote, hc]
    simp only [hadmitted]
    exact ⟨Table.get?_set_self .., rfl⟩
  · refine ⟨_, _, hact, hchecks, ?_⟩
    rw [startVote, hc]
    simp only [hadmitted]
    exact ⟨Table.get?_set_self .., rfl⟩

/-! ### The same events under another configuration -/

/-- The session with the configuration and the refreshes of another, as if it had been refreshed with that
one. -/
def withSnapshot (s t : Session) : Session :=
  { s with
    config := t.config
    refreshes := t.refreshes
    nextRefresh := t.nextRefresh
    invoked := t.invoked }

lemma letGo_withSnapshot (s t : Session) (g : ℕ) :
    (s.withSnapshot t).letGo g = (s.letGo g).withSnapshot t := by
  have hholds : (s.withSnapshot t).holdsGuard g = s.holdsGuard g := rfl
  rw [letGo, letGo, hholds]
  split <;> rfl

lemma reconnect_withSnapshot (s t : Session) (c : Option Connection) :
    (s.withSnapshot t).reconnect c = (s.reconnect c).withSnapshot t := by
  have hconnection : (s.withSnapshot t).connection = s.connection := rfl
  rw [reconnect, reconnect, hconnection]
  cases s.connection with
  | none => rfl
  | some o => exact letGo_withSnapshot { s with connection := c } t o.guard

lemma connect_withSnapshot (s t : Session) (wallet : ℕ) (a : Account) :
    ((s.withSnapshot t).connect wallet a).2 = (s.connect wallet a).2.withSnapshot t := by
  have hguard : (s.tracker.acquire a).2.scopes.guards.get? (s.tracker.acquire a).1 =
      some (s.nextGuard a) := get?_acquire_guard s a
  have htracker : (s.withSnapshot t).tracker = s.tracker := rfl
  rw [connect, connect, htracker]
  simp only [hguard]
  cases (s.tracker.acquire a).2.init (s.nextGuard a) with
  | error e => rfl
  | ok started => exact reconnect_withSnapshot { s with tracker := started.2 } t _

lemma endVote_withSnapshot (s t : Session) (id : ℕ) (v : Vote) (c : Connection) (r : VoteResult) :
    (s.withSnapshot t).endVote id v c r = (s.endVote id v c r).withSnapshot t :=
  letGo_withSnapshot (s.goTo id v (.ended r)) t c.guard

lemma afterDryRun_withSnapshot (s t : Session) (id : ℕ) (v : Vote) (c : Connection)
    (answer : Except ClientError InvokeResult) :
    (s.withSnapshot t).afterDryRun id v c answer = (s.afterDryRun id v c answer).withSnapshot t := by
  have hcontract : (s.withSnapshot t).contract = s.contract := rfl
  rw [afterDryRun, afterDryRun, hcontract]
  cases s.contract.afterDryRun v.ballot answer with
  | error e => exact endVote_withSnapshot s t id v c _
  | ok p => rfl

lemma afterSigning_withSnapshot (s t : Session) (id : ℕ) (v : Vote) (c : Connection) (now : ClockTime)
    (answer : Except ClientError TransactionHash) :
    (s.withSnapshot t).afterSigning id v c now answer =
      (s.afterSigning id v c now answer).withSnapshot t := by
  cases answer with
  | error e => exact endVote_withSnapshot s t id v c _
  | ok h =>
      have htracker : (s.withSnapshot t).tracker = s.tracker := rfl
      rw [afterSigning, afterSigning, htracker]
      cases s.tracker.scopes.guards.get? c.guard with
      | none => exact endVote_withSnapshot s t id v c _
      | some guard =>
          simp only
          cases s.tracker.add guard h now with
          | error e => exact endVote_withSnapshot s t id v c _
          | ok added => exact endVote_withSnapshot { s with tracker := added.2 } t id v c _

/-- A vote that goes on does not look at the configuration; it has done so when it started. -/
lemma stepVote_withSnapshot (t : Session) {event : VoteEvent}
    (hstart : event = .start → ∀ v, s.votes.get? id = some v → v.phase ≠ .ready) :
    (s.withSnapshot t).stepVote id event now = (s.stepVote id event now).map (·.withSnapshot t) := by
  have hvotes : (s.withSnapshot t).votes = s.votes := rfl
  rw [stepVote, stepVote, hvotes]
  cases hv : s.votes.get? id with
  | none => rfl
  | some v =>
      obtain ⟨b, phase⟩ := v
      cases event with
      | start =>
          cases phase with
          | ready => exact absurd rfl (hstart rfl _ hv)
          | _ => rfl
      | dryRun answer =>
          cases phase with
          | dryRunning c => exact congrArg some (afterDryRun_withSnapshot s t id _ c answer)
          | _ => rfl
      | signed answer =>
          cases phase with
          | signing c => exact congrArg some (afterSigning_withSnapshot s t id _ c now answer)
          | _ => rfl

/-- Events that are neither of a refresh nor the start of a vote come to the same under every
configuration. -/
lemma act_withSnapshot (t : Session) (hx : x.isOfRefresh = false)
    (hstart : ∀ id now, x = .vote id .start now → ∀ v, s.votes.get? id = some v → v.phase ≠ .ready) :
    (s.withSnapshot t).act x = (s.act x).map (·.withSnapshot t) := by
  cases x with
  | refresh => cases hx
  | endRefresh id answer => cases hx
  | connect wallet a => exact congrArg some (connect_withSnapshot s t wallet a)
  | disconnect => exact congrArg some (reconnect_withSnapshot s t none)
  | cast b => rfl
  | vote id event now => exact stepVote_withSnapshot t fun hevent => hstart id now (hevent ▸ rfl)
  | track y =>
      have htracker : (s.withSnapshot t).tracker = s.tracker := rfl
      have hmay : (s.withSnapshot t).mayTrack y = s.mayTrack y := by cases y <;> rfl
      rw [act, act, hmay, htracker]
      split
      · cases s.tracker.act y <;> rfl
      · rfl

/-- Nothing but the configuration and the refreshes tells that a refresh has been started or has ended. -/
lemma withSnapshot_of_isOfRefresh (t : Session) (hx : x.isOfRefresh = true) (h : s.act x = some s') :
    s'.withSnapshot t = s.withSnapshot t := by
  rcases act_refreshes h with ⟨rfl, rfl⟩ | ⟨id, answer, config, r, rfl, -, -, rfl⟩ | ⟨hno, -⟩
  · rfl
  · rfl
  · rw [hx] at hno
    cases hno

lemma run_withSnapshot (t : Session) (hxs : ∀ x ∈ xs, x.isStart = false) (h : s.run xs = some s') :
    (s.withSnapshot t).run (xs.filter fun x => !x.isOfRefresh) = some (s'.withSnapshot t) := by
  induction xs generalizing s with
  | nil =>
      cases h
      rfl
  | cons x xs ih =>
      obtain ⟨s₁, hact, hrun⟩ := Option.bind_eq_some_iff.mp h
      obtain ⟨hx, hxs⟩ := List.forall_mem_cons.mp hxs
      have hrest := ih hxs hrun
      cases hrefresh : x.isOfRefresh with
      | true =>
          rw [List.filter_cons_of_neg (by simp [hrefresh]), ← withSnapshot_of_isOfRefresh t hrefresh hact]
          exact hrest
      | false =>
          have hact' : (s.withSnapshot t).act x = some (s₁.withSnapshot t) := by
            rw [act_withSnapshot t hrefresh fun id now hstart => ?_, hact]
            · rfl
            · rw [hstart] at hx
              cases hx
          rw [List.filter_cons_of_pos (by simp [hrefresh])]
          exact run_cons hact' hrest

/-! ### Votes that have been started -/

/-- A vote that has been refused stays so. -/
lemma Sound.act_ended (hs : s.Sound) (h : s.act x = some s') {result : VoteResult}
    (hv : s.votes.get? id = some ⟨b, .ended result⟩) : s'.votes.get? id = some ⟨b, .ended result⟩ := by
  cases hx : x.isOfVote id with
  | false => exact (act_votes h (hs.vote_lt hv) (ne_vote_of_isOfVote hx)).trans hv
  | true =>
      obtain ⟨event, now, rfl⟩ := eq_vote_of_isOfVote hx
      rw [Session.act, stepVote, hv] at h
      cases event <;> cases h

/-- What holds of a vote from its start on, which has brought it to a phase. Whatever has happened since
then, what it does next is the same under every configuration and whatever has become of refreshes. If it
was refused, this is final. -/
structure Detached (s : Session) (id : ℕ) (b : Ballot) (phase : VotePhase) : Prop where
  turns : ∀ ys u, s.run ys = some u → ∀ t event now,
    (u.withSnapshot t).act (.vote id event now) = (u.act (.vote id event now)).map (·.withSnapshot t)
  refused : ∀ result, phase = .ended result → ∀ ys u, s.run ys = some u →
    u.votes.get? id = some ⟨b, .ended result⟩

lemma Sound.detached (hs : s.Sound) {phase : VotePhase} (hv : s.votes.get? id = some ⟨b, phase⟩)
    (htakes : s.Takes id c) : s.Detached id b phase where
  turns ys u hu t event now := by
    -- it still holds its connection or has ended, so it cannot be about to start
    obtain ⟨v, hv', hheld⟩ := htakes.run hs hu
    refine stepVote_withSnapshot t fun _ w hw hready => ?_
    obtain rfl : v = w := Option.some.inj (hv'.symm.trans hw)
    rw [Vote.connection?, hready] at hheld
    rcases hheld with hnone | ⟨result, hended⟩
    · cases hnone
    · cases hended
  refused result hphase ys u hu := by
    subst hphase
    exact (run_induction
      (P := fun u => u.Sound ∧ u.votes.get? id = some ⟨b, .ended result⟩)
      (fun hact hu => ⟨hu.1.act hact, hu.1.act_ended hact hu.2⟩) hu ⟨hs, hv⟩).2

/-- However refreshes overlap with each other and with whatever else happens, a session knows no
configuration until an answer has shown one, and from then on the one that was shown last, as it was
written in that one answer. A refresh whose answer does not show one leaves the configuration as it is,
and hands this out if the view is not available, and an error otherwise. What was handed out stays what it
was. A vote is checked when it starts, against the configuration that is known at this moment, and no
refresh makes a difference to it any more. A worker that decodes for several of them at once decodes for
each of them what its own answer shows. -/
theorem snapshots_are_swapped_whole {contract : ElectionContract} {settings : TrackerSettings}
    {store : SubmissionStore} (h₀ : (Session.new contract (.empty settings store)).run xs = some s) :
    Snapshot none xs s.config ∧
    (∀ id, s.refreshes.get? id = some none → ∀ answer, ∃ config r, Refreshes s.config answer config r ∧
      s.act (.endRefresh id answer) = some (s.afterRefresh id config r)) ∧
    (∀ ys s', s.run ys = some s' → ∀ id r, s.refreshes.get? id = some (some r) →
      s'.refreshes.get? id = some (some r)) ∧
    (∀ id b c, s.votes.get? id = some ⟨b, .ready⟩ → s.connection = some c → ∀ now, ∃ phase s',
      s.act (.vote id .start now) = some s' ∧ Checks s.config now b c phase ∧
        s'.votes.get? id = some ⟨b, phase⟩ ∧ s'.config = s.config ∧ s'.Detached id b phase) ∧
    (∀ ys s', s.run ys = some s' → (∀ y ∈ ys, y.isStart = false) →
      s.run (ys.filter fun y => !y.isOfRefresh) = some (s'.withSnapshot s)) ∧
    ∀ es (k : ℕ) shared answer result,
      (Readings.idle.run es).readings[k]? = some ⟨.config, shared, answer, .ended result⟩ →
        View.config.narrow result = View.config? answer := by
  have hs := sound_of_run h₀
  have hnew : (Session.new contract (.empty settings store)).Numbered := fun _ _ h => by cases h
  refine ⟨run_snapshot h₀, fun id hid answer => ?_, fun ys s' hys => ((hnew.run h₀).1.run hys).2,
    fun id b c hv hc now => ?_, fun ys s' hys hstarts => run_withSnapshot s hstarts hys,
    fun es k shared answer result hr => ?_⟩
  · exact ⟨_, _, refreshes_refreshed s.config answer, act_endRefresh hid answer⟩
  · obtain ⟨phase, s', hact, hchecks, hv', hconfig⟩ := checks_of_start hv hc now
    exact ⟨phase, s', hact, hchecks, hv', hconfig,
      (hs.act hact).detached hv' (takes_of_start hv hc hact)⟩
  · rw [(Readings.Sound.idle.run es).result hr rfl]
    rfl

/-- An election with one candidate about which little is said can be written. -/
lemma fits_of_window (start finish : Moment) : ElectionConfig.codec.Fits
    { (default : ElectionConfig) with start := start, finish := finish, candidates := [default] } := by
  have htext : Binary.Codec.text.Fits "" := show "".utf8ByteSize < UInt32.size by decide
  have hresource : Resource.codec.Fits default := ⟨htext, trivial⟩
  have hguardians : Account.codec.list.Fits [] := ⟨by decide, nofun⟩
  have hcandidates : Resource.codec.list.Fits [default] := ⟨by decide, by simpa using hresource⟩
  exact ⟨trivial, hresource, hresource, hguardians, ⟨trivial, trivial, hresource⟩, htext, hcandidates,
    trivial, trivial, trivial, htext⟩

/-- Two refreshes overlap, and the one that was started last ends first. A vote starts in between, in time
for what is known then. The answer that comes last has the election start later. This is known from then
on, though the first refresh still has what it was handed, and the vote goes on as it would have done
otherwise. -/
theorem snapshots_are_swapped_whole_of_overlap :
    let shown (start : Moment) : ElectionConfig :=
      { (default : ElectionConfig) with start := start, finish := ⟨1000⟩, candidates := [default] }
    let shows (start : Moment) : Except ClientError InvokeResult :=
      .ok (.success ⟨5⟩ (some (ElectionConfig.codec.encode (shown start))))
    let xs : List SessionAction := [.connect 0 ⟨.replicate 1⟩, .cast ⟨[true]⟩, .refresh, .refresh,
      .endRefresh 1 (shows ⟨0⟩)]
    let c : Connection := ⟨0, ⟨.replicate 1⟩, 0⟩
    ∃ s s₁ s₂ s₃, (Session.new ⟨⟨0, 0⟩, "election"⟩ (.empty ⟨10, none⟩ .ofLists)).run xs = some s ∧
      s.config = some (shown ⟨0⟩) ∧ Snapshot none xs (some (shown ⟨0⟩)) ∧
      s.act (.vote 0 .start .epoch) = some s₁ ∧ s₁.votes.get? 0 = some ⟨⟨[true]⟩, .dryRunning c⟩ ∧
      s₁.act (.endRefresh 0 (shows ⟨500⟩)) = some s₂ ∧ s₂.config = some (shown ⟨500⟩) ∧
      s₂.refreshes.get? 1 = some (some (.ok (some (shown ⟨0⟩)))) ∧
      (admitted s₂.config .epoch ⟨[true]⟩ = .error (.electionClosed .setup)) ∧
      s₂.act (.vote 0 (.dryRun (.ok (.success ⟨5⟩ none))) .epoch) = some s₃ ∧
      s₃.votes.get? 0 = some ⟨⟨[true]⟩, .signing c⟩ ∧
      s₁.act (.vote 0 (.dryRun (.ok (.success ⟨5⟩ none))) .epoch) = some (s₃.withSnapshot s₁) := by
  intro shown shows xs c
  have hshows (start : Moment) : (shown start).ShownBy (shows start) :=
    ⟨fits_of_window start ⟨1000⟩, ⟨5⟩, rfl⟩
  have h₀ : (Session.new ⟨⟨0, 0⟩, "election"⟩ (.empty ⟨10, none⟩ .ofLists)).run xs = some _ :=
    run_cons rfl (run_cons rfl (run_cons rfl (run_cons rfl
      (run_cons (act_endRefresh_of_shownBy rfl (hshows ⟨0⟩)) rfl))))
  obtain ⟨hsnapshot, -, hkept, hvotes, -⟩ := snapshots_are_swapped_whole h₀
  obtain ⟨phase, s₁, hact, -, -, -, hdetached⟩ := hvotes 0 ⟨[true]⟩ c rfl rfl .epoch
  have hs₁ : Session.startVote _ 0 ⟨⟨[true]⟩, .ready⟩ .epoch = s₁ := Option.some.inj hact
  have hend : s₁.act (.endRefresh 0 (shows ⟨500⟩)) = some _ :=
    act_endRefresh_of_shownBy (hs₁ ▸ rfl) (hshows ⟨500⟩)
  have hlater := hkept [.vote 0 .start .epoch, .endRefresh 0 (shows ⟨500⟩)] _
    (run_cons hact (run_cons hend rfl)) 1 _ rfl
  have hturn := hdetached.turns [.endRefresh 0 (shows ⟨500⟩)] _ (run_cons hend rfl) s₁
    (.dryRun (.ok (.success ⟨5⟩ none))) .epoch
  subst hs₁
  exact ⟨_, _, _, _, h₀, rfl, hsnapshot, hact, rfl, hend, rfl, hlater, rfl, rfl, rfl, hturn⟩

end Session

end ChainElection
