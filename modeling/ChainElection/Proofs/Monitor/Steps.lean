import Mathlib.Tactic
import ChainElection.Monitor.Run
import ChainElection.Proofs.Submission.History

/-!
Steps of a tracker: what each of them can do, said once.

* `Monitor.Same`: a monitor keeps its submission, its signal and its claim.
* `Tracker.Writes` is what a monitor's turn may do to the store: nothing, or one
  legal step with its own submission, which is announced.
* `Tracker.Turns` lists the ways in which a monitor can take a turn;
  `turn_cases` says that there are no others, and `step_cases` takes a step
  apart into a turn and the writing of the monitor.
* `Tracker.record_cases` takes the recording of a submission apart, and
  `Tracker.Starts` says what starting monitors leaves alone.
* `Tracker.Becomes` says how a monitor comes about; `act_becomes` and `act_kept`
  are all that is needed to know about the monitors after an event.
-/

namespace ChainElection

/-! ### Monitors over time -/

namespace Monitor

/-- The two are one monitor, maybe at different times. -/
structure Same (m m' : Monitor) : Prop where
  account : m'.account = m.account
  hash : m'.hash = m.hash
  signal : m'.signal = m.signal
  claim : m'.claim = m.claim

lemma Same.refl (m : Monitor) : m.Same m := ⟨rfl, rfl, rfl, rfl⟩

lemma Same.trans {m m' m'' : Monitor} (h : m.Same m') (h' : m'.Same m'') : m.Same m'' :=
  ⟨h'.account.trans h.account, h'.hash.trans h.hash, h'.signal.trans h.signal,
    h'.claim.trans h.claim⟩

lemma Same.key {m m' : Monitor} (h : m.Same m') : m'.key = m.key := by
  rw [Monitor.key, Monitor.key, h.account, h.hash]

lemma same_goTo (m : Monitor) (phase : MonitorPhase) : m.Same (m.goTo phase) := ⟨rfl, rfl, rfl, rfl⟩

lemma same_finish (m : Monitor) (how : MonitorEnd) : m.Same (m.finish how) := ⟨rfl, rfl, rfl, rfl⟩

lemma same_abandonPoll (m : Monitor) (failure : Option ClientError) :
    m.Same (m.abandonPoll failure) := by
  rw [abandonPoll]
  split
  · exact same_finish m _
  · exact .refl m

@[simp] lemma phase_goTo (m : Monitor) (phase : MonitorPhase) : (m.goTo phase).phase = phase := rfl

@[simp] lemma effort_goTo (m : Monitor) (phase : MonitorPhase) :
    (m.goTo phase).effort = m.effort := rfl

/-- A monitor that is not running has come to an end. -/
lemma isRunning_eq_false_iff {m : Monitor} : m.isRunning = false ↔ ∃ how, m.phase = .ended how := by
  rw [isRunning]
  split
  · rename_i how h
    exact ⟨fun _ => ⟨how, h⟩, fun _ => rfl⟩
  · rename_i h
    refine ⟨fun hf => (by cases hf), ?_⟩
    rintro ⟨how, hh⟩
    exact absurd hh (h how)

end Monitor

namespace Tracker

open Submission

variable {t t' : Tracker} {m m' : Monitor} {id : ℕ}

/-! ### Parts of a turn -/

lemma poll_cases (t : Tracker) (m : Monitor) (polls : UInt32) :
    (t.poll m polls = m.finish .outOfPolls ∧ ∃ budget, t.settings.maxPolls = some budget ∧ budget ≤ polls) ∨
    (t.poll m polls = m.finish .brokeDown ∧ t.settings.maxPolls = none ∧ polls.toNat = Numeral.max32) ∨
    (t.poll m polls =
        { m with effort := { m.effort with polls := m.effort.polls + 1 } }.goTo (.polling (polls + 1)) ∧
      polls.toNat ≠ Numeral.max32) := by
  rw [poll]
  split
  · rename_i h
    obtain ⟨budget, hb, hle⟩ := Option.any_eq_true _ _ |>.mp h
    exact .inl ⟨rfl, budget, hb, of_decide_eq_true hle⟩
  · split
    · rename_i hbudget hfull
      refine .inr (.inl ⟨rfl, ?_, hfull⟩)
      -- no budget is larger than what a word can count
      cases hsettings : t.settings.maxPolls with
      | none => rfl
      | some budget =>
          have hle : budget ≤ polls :=
            UInt32.le_iff_toNat_le.mpr (hfull ▸ Nat.le_of_lt_succ budget.toNat_lt)
          simp [hsettings, hle] at hbudget
    · rename_i h
      exact .inr (.inr ⟨rfl, h⟩)

lemma same_poll (t : Tracker) (m : Monitor) (polls : UInt32) : m.Same (t.poll m polls) := by
  rcases poll_cases t m polls with ⟨h, -⟩ | ⟨h, -⟩ | ⟨h, -⟩ <;> rw [h] <;> exact ⟨rfl, rfl, rfl, rfl⟩

lemma same_beginRound (t : Tracker) (m : Monitor) : m.Same (t.beginRound m) := by
  rw [beginRound]
  dsimp only
  split
  · exact ⟨rfl, rfl, rfl, rfl⟩
  · split
    · exact ⟨rfl, rfl, rfl, rfl⟩
    · exact ⟨rfl, rfl, rfl, rfl⟩
    · exact ⟨rfl, rfl, rfl, rfl⟩
    · refine .trans ?_ (same_poll t _ 0)
      exact ⟨rfl, rfl, rfl, rfl⟩
    · exact ⟨rfl, rfl, rfl, rfl⟩

/-! ### What a turn writes -/

/-- What a turn of a monitor may do to the tracker: nothing, or one legal step with the monitor's
submission, which is saved and announced. -/
inductive Writes (t : Tracker) (m : Monitor) : Tracker → Prop where
  | nothing : Writes t m t
  | step {ss ss' : List Submission} {next : SubmissionStatus} {store : SubmissionStore}
      (hload : t.store.load m.account = .ok ss)
      (hmove : moveFirst m.hash next ss = some (.ok ss'))
      (hsave : t.store.save m.account ss' = .ok store) :
      Writes t m { t with store := store, updates := t.updates ++ [⟨m.account, m.hash, next⟩] }

lemma Writes.settings (h : Writes t m t') : t'.settings = t.settings := by cases h <;> rfl

lemma Writes.scopes (h : Writes t m t') : t'.scopes = t.scopes := by cases h <;> rfl

lemma Writes.claims (h : Writes t m t') : t'.claims = t.claims := by cases h <;> rfl

lemma Writes.nextClaim (h : Writes t m t') : t'.nextClaim = t.nextClaim := by cases h <;> rfl

lemma Writes.monitors (h : Writes t m t') : t'.monitors = t.monitors := by cases h <;> rfl

lemma Writes.nextMonitor (h : Writes t m t') : t'.nextMonitor = t.nextMonitor := by
  cases h <;> rfl

/-- Persisting a status writes at most once, and leaves all of the monitor but its effort. -/
lemma persist_cases {next : SubmissionStatus} (h : t.persist m next = .ok (t', m')) :
    Writes t m t' ∧ m.Same m' := by
  rw [persist] at h
  split at h
  · cases h
  · rename_i ss hload
    split at h
    · cases h
      exact ⟨.nothing, .refl m⟩
    · cases h
    · rename_i ss' hmove
      split at h
      · cases h
      · rename_i store hsave
        cases h
        exact ⟨.step hload hmove hsave, ⟨rfl, rfl, rfl, rfl⟩⟩

lemma endRound_writes (t : Tracker) (m : Monitor) (next : SubmissionStatus) :
    Writes t m (t.endRound m next).1 := by
  rw [endRound]
  split
  · exact .nothing
  · exact (persist_cases ‹_›).1

lemma same_endRound (t : Tracker) (m : Monitor) (next : SubmissionStatus) :
    m.Same (t.endRound m next).2 := by
  rw [endRound]
  split
  · exact m.same_finish _
  · rename_i t' m' h
    exact (persist_cases h).2.trans (same_beginRound t' m')

/-! ### The ways to take a turn -/

/-- A committed submission may get the status that the outcome leads to. -/
lemma canBecome_statusAfter (outcome : TransactionOutcome) :
    SubmissionStatus.committed.canBecome (statusAfter outcome) = true := by
  cases outcome <;> rfl

/-- An approved submission may get the status that the verdict leads to. -/
lemma canBecome_statusOfVerdict (verified : Bool) :
    SubmissionStatus.approved.canBecome (statusOfVerdict verified) = true := by
  cases verified <;> rfl

/-- A verdict leaves no submission approved. -/
lemma statusOfVerdict_ne_approved (verified : Bool) : statusOfVerdict verified ≠ .approved := by
  cases verified <;> exact nofun

/-- The ways in which a monitor takes a turn, with what they lead to. -/
inductive Turns (t : Tracker) (m : Monitor) : MonitorEvent → Tracker → Monitor → Prop where
  | started (hphase : m.phase = .ready) : Turns t m .start t (t.beginRound m)
  | nodeFailed (hphase : m.phase = .awaitingFinality) (e : ClientError) :
      Turns t m (.finalized (.error e)) t (m.finish (.failed .node e))
  | verifierFailed {polls : UInt32} (hphase : m.phase = .polling polls) (e : ClientError) :
      Turns t m (.answered (.error e)) t (m.finish (.failed .verifier e))
  | stopped {event : MonitorEvent} (hwaiting : m.isWaiting = true)
      (haborted : t.scopes.isAborted m.signal = true) : Turns t m event t (m.finish .aborted)
  | finalized (hphase : m.phase = .awaitingFinality)
      (hlive : t.scopes.isAborted m.signal = false) (outcome : TransactionOutcome) :
      Turns t m (.finalized (.ok outcome)) (t.endRound m (statusAfter outcome)).1
        (t.endRound m (statusAfter outcome)).2
  | judged {polls : UInt32} (hphase : m.phase = .polling polls)
      (hlive : t.scopes.isAborted m.signal = false) (r : SubmissionRecord) :
      Turns t m (.answered (.ok (some r))) (t.endRound m (statusOfVerdict r.verified)).1
        (t.endRound m (statusOfVerdict r.verified)).2
  | fellAsleep {polls : UInt32} (hphase : m.phase = .polling polls)
      (hlive : t.scopes.isAborted m.signal = false) :
      Turns t m (.answered (.ok none)) t (m.goTo (.sleeping polls))
  | awoke {polls : UInt32} (hphase : m.phase = .sleeping polls)
      (hlive : t.scopes.isAborted m.signal = false) (failure : Option ClientError) :
      Turns t m (.awoken failure) t (t.poll m polls)
  | gaveUp {polls : UInt32} (hphase : m.phase = .sleeping polls)
      (haborted : t.scopes.isAborted m.signal = true) (failure : Option ClientError) :
      Turns t m (.awoken failure) t ((t.poll m polls).abandonPoll failure)

/-- There are no other ways to take a turn. -/
lemma turn_cases {event : MonitorEvent} (h : t.turn m event = some (t', m')) :
    Turns t m event t' m' := by
  unfold turn at h
  split at h
  · rename_i hphase
    cases h
    exact .started hphase
  · rename_i answer hphase
    unfold afterFinality at h
    split at h
    · cases h
      exact .nodeFailed hphase _
    · split at h
      · rename_i haborted
        cases h
        exact .stopped (by rw [Monitor.isWaiting, hphase]) haborted
      · rename_i outcome hlive
        have hturn := Turns.finalized hphase (Bool.eq_false_iff.mpr hlive) outcome
        rwa [Option.some.inj h] at hturn
  · rename_i polls answer hphase
    unfold afterPoll at h
    split at h
    · cases h
      exact .verifierFailed hphase _
    · split at h
      · rename_i haborted
        cases h
        exact .stopped (by rw [Monitor.isWaiting, hphase]) haborted
      · rename_i hlive
        split at h
        · rename_i r
          have hturn := Turns.judged hphase (Bool.eq_false_iff.mpr hlive) r
          rwa [Option.some.inj h] at hturn
        · cases h
          exact .fellAsleep hphase (Bool.eq_false_iff.mpr hlive)
  · rename_i polls failure hphase
    unfold afterSleep at h
    split at h
    · rename_i haborted
      cases h
      exact .gaveUp hphase haborted failure
    · rename_i hlive
      cases h
      exact .awoke hphase (Bool.eq_false_iff.mpr hlive) failure
  · split at h
    · rename_i hw
      rw [Bool.and_eq_true] at hw
      cases h
      exact .stopped hw.1 hw.2
    · cases h
  · cases h

/-- Only a running monitor takes a turn. -/
lemma Turns.isRunning {event : MonitorEvent} (h : Turns t m event t' m') : m.isRunning = true := by
  cases h with
  | stopped hwaiting _ =>
      rw [Monitor.isWaiting] at hwaiting
      rw [Monitor.isRunning]
      split at hwaiting
      · rename_i hphase; rw [hphase]
      · rename_i hphase; rw [hphase]
      · rename_i hphase; rw [hphase]
      · cases hwaiting
  | started hphase => rw [Monitor.isRunning, hphase]
  | nodeFailed hphase _ => rw [Monitor.isRunning, hphase]
  | verifierFailed hphase _ => rw [Monitor.isRunning, hphase]
  | finalized hphase _ _ => rw [Monitor.isRunning, hphase]
  | judged hphase _ _ => rw [Monitor.isRunning, hphase]
  | fellAsleep hphase _ => rw [Monitor.isRunning, hphase]
  | awoke hphase _ _ => rw [Monitor.isRunning, hphase]
  | gaveUp hphase _ _ => rw [Monitor.isRunning, hphase]

/-- A monitor stays the same over a turn. -/
lemma Turns.same {event : MonitorEvent} (h : Turns t m event t' m') : m.Same m' := by
  cases h with
  | started _ => exact same_beginRound t m
  | nodeFailed _ _ => exact m.same_finish _
  | verifierFailed _ _ => exact m.same_finish _
  | stopped _ _ => exact m.same_finish _
  | finalized _ _ _ => exact same_endRound t m _
  | judged _ _ _ => exact same_endRound t m _
  | fellAsleep _ _ => exact m.same_goTo _
  | awoke _ _ _ => exact same_poll t m _
  | gaveUp _ _ _ => exact (same_poll t m _).trans (Monitor.same_abandonPoll _ _)

/-- A turn writes what a turn may write. -/
lemma Turns.writes {event : MonitorEvent} (h : Turns t m event t' m') : Writes t m t' := by
  cases h with
  | finalized _ _ _ => exact endRound_writes t m _
  | judged _ _ _ => exact endRound_writes t m _
  | _ => exact .nothing

lemma step_cases {event : MonitorEvent} (h : t.step id event = some t') :
    ∃ m t₁ m', t.monitors.get? id = some m ∧ Turns t m event t₁ m' ∧ t' = t₁.place id m' := by
  rw [step] at h
  split at h
  · cases h
  · rename_i m hm
    obtain ⟨⟨t₁, m'⟩, hturn, rfl⟩ := Option.map_eq_some_iff.mp h
    exact ⟨m, t₁, m', hm, turn_cases hturn, rfl⟩

lemma kill_cases (h : t.kill id = some t') :
    ∃ m, t.monitors.get? id = some m ∧ m.isRunning = true ∧ t' = t.place id (m.finish .killed) := by
  rw [kill] at h
  split at h
  · cases h
  · rename_i m hm
    split at h
    · rename_i hrunning
      cases h
      exact ⟨m, hm, hrunning, rfl⟩
    · cases h

/-- The turn that a known monitor takes. -/
lemma turns_of_step {event : MonitorEvent} (hm : t.monitors.get? id = some m)
    (h : t.step id event = some t') : ∃ t₁ m', Turns t m event t₁ m' ∧ t' = t₁.place id m' := by
  obtain ⟨n, t₁, m', hn, hturn, rfl⟩ := step_cases h
  obtain rfl : m = n := Option.some.inj (hm.symm.trans hn)
  exact ⟨t₁, m', hturn, rfl⟩

/-- A known monitor that is killed was running. -/
lemma running_of_kill (hm : t.monitors.get? id = some m) (h : t.kill id = some t') :
    m.isRunning = true ∧ t' = t.place id (m.finish .killed) := by
  obtain ⟨n, hn, hrunning, rfl⟩ := kill_cases h
  obtain rfl : m = n := Option.some.inj (hm.symm.trans hn)
  exact ⟨hrunning, rfl⟩

/-! ### Writing a monitor -/

lemma get?_withoutClaim (t : Tracker) (m : Monitor) (k : Account × TransactionHash) (c : Claim) :
    (t.withoutClaim m).get? k = some c ↔
      t.claims.get? k = some c ∧ (m.key = k → c.id ≠ m.claim) := by
  rw [withoutClaim]
  split
  · rename_i c₀ hc₀
    split
    · rename_i hid
      rw [Table.get?_erase]
      by_cases hk : m.key = k
      · subst hk
        rw [if_pos rfl, hc₀]
        simp only [reduceCtorEq, Option.some.injEq, forall_const, ne_eq, false_iff, not_and, not_not]
        rintro rfl
        exact hid
      · simp [hk]
    · rename_i hid
      refine ⟨fun h => ⟨h, ?_⟩, fun h => h.1⟩
      rintro rfl
      rw [hc₀] at h
      cases h
      exact hid
  · rename_i hnone
    refine ⟨fun h => ⟨h, ?_⟩, fun h => h.1⟩
    rintro rfl
    rw [hnone] at h
    cases h

/-- The claims that are left once a monitor is written: all, but for its own if it has ended. -/
lemma get?_place_claims (t : Tracker) (m : Monitor) (k : Account × TransactionHash) (c : Claim) :
    (t.place id m).claims.get? k = some c ↔
      t.claims.get? k = some c ∧ (m.isRunning = true ∨ (m.key = k → c.id ≠ m.claim)) := by
  by_cases h : m.isRunning = true
  · simp [place, h]
  · simp [place, h, get?_withoutClaim]

lemma get?_place_monitors (t : Tracker) (m : Monitor) (k : ℕ) :
    (t.place id m).monitors.get? k = if id = k then some m else t.monitors.get? k :=
  Table.get?_set ..

lemma get?_place_self (t : Tracker) (id : ℕ) (m : Monitor) :
    (t.place id m).monitors.get? id = some m :=
  Table.get?_set_self ..

/-! ### Recording a submission -/

/-- Recording a submission adds it behind the others, unless it is there already. -/
lemma record_cases {a : Account} {h : TransactionHash} {now : ClockTime}
    (hr : t.record a h now = .ok t') :
    (∃ ss, t.store.load a = .ok ss ∧ h ∈ hashes ss ∧ t' = t) ∨
    ∃ ss store, t.store.load a = .ok ss ∧ h ∉ hashes ss ∧
      t.store.save a (ss ++ [fresh h now]) = .ok store ∧
      t' = { t with store := store, updates := t.updates ++ [⟨a, h, .committed⟩] } := by
  rw [record] at hr
  split at hr
  · cases hr
  · rename_i ss hload
    have hmem : (ss.any fun s => s.hash == h) = true ↔ h ∈ hashes ss := by
      simp [hashes, List.any_eq_true]
    split at hr
    · rename_i hany
      cases hr
      exact .inl ⟨ss, hload, hmem.mp hany, rfl⟩
    · rename_i hany
      split at hr
      · cases hr
      · rename_i store hsave
        cases hr
        exact .inr ⟨ss, store, hload, fun hh => hany (hmem.mpr hh), hsave, rfl⟩

lemma record_monitors {a : Account} {h : TransactionHash} {now : ClockTime}
    (hr : t.record a h now = .ok t') :
    t'.monitors = t.monitors ∧ t'.nextMonitor = t.nextMonitor := by
  rcases record_cases hr with ⟨ss, -, -, rfl⟩ | ⟨ss, store, -, -, -, rfl⟩ <;> exact ⟨rfl, rfl⟩

lemma record_scopes {a : Account} {h : TransactionHash} {now : ClockTime}
    (hr : t.record a h now = .ok t') : t'.scopes = t.scopes := by
  rcases record_cases hr with ⟨ss, -, -, rfl⟩ | ⟨ss, store, -, -, -, rfl⟩ <;> rfl

/-! ### Starting monitors -/

/-- A submission is free if nobody has claimed it under a live signal. -/
lemma isFree_eq_true_iff {k : Account × TransactionHash} :
    t.isFree k = true ↔ ∀ c, t.claims.get? k = some c → t.scopes.isAborted c.signal = true := by
  rw [isFree]
  split
  · rename_i hnone
    simp [hnone]
  · rename_i c hc
    simp [hc]

/-- The tracker once a monitor is started: the claim is made, and taken over if there was one. -/
def started (t : Tracker) (a : Account) (h : TransactionHash) (σ : ℕ) : Tracker :=
  { t with
    claims := t.claims.set (a, h) ⟨t.nextClaim, σ⟩
    nextClaim := t.nextClaim + 1
    monitors := t.monitors.set t.nextMonitor (.fresh a h σ t.nextClaim)
    nextMonitor := t.nextMonitor + 1 }

lemma get?_started_monitors (t : Tracker) (a : Account) (h : TransactionHash) (σ k : ℕ) :
    (t.started a h σ).monitors.get? k =
      if t.nextMonitor = k then some (.fresh a h σ t.nextClaim) else t.monitors.get? k :=
  Table.get?_set ..

lemma get?_started_claims (t : Tracker) (a : Account) (h : TransactionHash) (σ : ℕ)
    (k : Account × TransactionHash) :
    (t.started a h σ).claims.get? k =
      if (a, h) = k then some ⟨t.nextClaim, σ⟩ else t.claims.get? k :=
  Table.get?_set ..

lemma start_cases (t : Tracker) (a : Account) (h : TransactionHash) (σ : ℕ) :
    (t.isFree (a, h) = true ∧ t.start a h σ = (some t.nextMonitor, t.started a h σ)) ∨
    (t.isFree (a, h) = false ∧ t.start a h σ = (none, { t with nextClaim := t.nextClaim + 1 })) := by
  rw [start]
  cases hfree : t.isFree (a, h)
  · have hfree' : isFree { t with nextClaim := t.nextClaim + 1 } (a, h) = false := hfree
    exact .inr ⟨rfl, by simp [hfree']⟩
  · have hfree' : isFree { t with nextClaim := t.nextClaim + 1 } (a, h) = true := hfree
    exact .inl ⟨rfl, by simp [hfree', started]⟩

/-- What starting monitors for some submissions of an account leaves alone, and what it adds. -/
structure Starts (t : Tracker) (a : Account) (σ : ℕ) (hs : List TransactionHash) (t' : Tracker) :
    Prop where
  settings : t'.settings = t.settings
  scopes : t'.scopes = t.scopes
  store : t'.store = t.store
  updates : t'.updates = t.updates
  nextMonitor_le : t.nextMonitor ≤ t'.nextMonitor
  kept : ∀ {k}, k < t.nextMonitor → t'.monitors.get? k = t.monitors.get? k
  fresh : ∀ {k m}, t'.monitors.get? k = some m → t.monitors.get? k = some m ∨
    t.nextMonitor ≤ k ∧ ∃ h ∈ hs, ∃ c, m = .fresh a h σ c

lemma start_starts (t : Tracker) (a : Account) (h : TransactionHash) (σ : ℕ) :
    Starts t a σ [h] (t.start a h σ).2 := by
  rcases start_cases t a h σ with ⟨-, hstart⟩ | ⟨-, hstart⟩ <;> rw [hstart]
  · refine ⟨rfl, rfl, rfl, rfl, Nat.le_succ _, fun {k} hk => ?_, fun {k m} hm => ?_⟩
    · rw [get?_started_monitors, if_neg hk.ne']
    · rw [get?_started_monitors] at hm
      split at hm
      · rename_i hk
        cases hm
        exact .inr ⟨hk.le, h, List.mem_singleton_self h, _, rfl⟩
      · exact .inl hm
  · exact ⟨rfl, rfl, rfl, rfl, le_rfl, fun _ => rfl, fun hm => .inl hm⟩

lemma startAll_starts (a : Account) (σ : ℕ) (hs : List TransactionHash) (t : Tracker) :
    Starts t a σ hs (t.startAll a σ hs).2 := by
  induction hs generalizing t with
  | nil => exact ⟨rfl, rfl, rfl, rfl, le_rfl, fun _ => rfl, fun hm => .inl hm⟩
  | cons h r ih =>
      have hfirst := start_starts t a h σ
      have hrest := ih (t.start a h σ).2
      refine ⟨hrest.settings.trans hfirst.settings, hrest.scopes.trans hfirst.scopes,
        hrest.store.trans hfirst.store, hrest.updates.trans hfirst.updates,
        hfirst.nextMonitor_le.trans hrest.nextMonitor_le, fun hk => ?_, fun hm => ?_⟩
      · exact (hrest.kept (hk.trans_le hfirst.nextMonitor_le)).trans (hfirst.kept hk)
      · rcases hrest.fresh hm with hm | ⟨hk, h', hmem, c, rfl⟩
        · rcases hfirst.fresh hm with hm | ⟨hk, h', hmem, c, rfl⟩
          · exact .inl hm
          · obtain rfl := List.mem_singleton.mp hmem
            exact .inr ⟨hk, h', List.mem_cons_self, c, rfl⟩
        · exact .inr ⟨hfirst.nextMonitor_le.trans hk, h', List.mem_cons_of_mem h hmem, c, rfl⟩

/-- A monitor that was not there before monitors are started is one of those that are started. -/
lemma mem_startAll {a : Account} {σ : ℕ} {hs : List TransactionHash}
    (hm : (t.startAll a σ hs).2.monitors.get? id = some m) (hnew : t.monitors.get? id = none) :
    id ∈ (t.startAll a σ hs).1 := by
  induction hs generalizing t with
  | nil =>
      rw [startAll, hnew] at hm
      cases hm
  | cons h r ih =>
      rw [startAll, List.mem_append]
      cases hfirst : (t.start a h σ).2.monitors.get? id with
      | none => exact .inr (ih hm hfirst)
      | some n =>
          left
          rcases start_cases t a h σ with ⟨-, hstart⟩ | ⟨-, hstart⟩ <;> rw [hstart] at hfirst ⊢
          · rw [get?_started_monitors, hnew] at hfirst
            split at hfirst
            · rename_i hid
              exact List.mem_singleton.mpr hid.symm
            · cases hfirst
          · rw [hnew] at hfirst
            cases hfirst

/-! ### Events -/

variable {x : TrackerAction}

lemma init_cases (t : Tracker) (guard : Guard) :
    t.orElse (t.init guard) = t ∨ ∃ ss, t.store.load guard.account = .ok ss ∧
      t.orElse (t.init guard) = (t.startAll guard.account guard.signal (pending ss)).2 := by
  rw [init]
  split
  · exact .inl rfl
  · rename_i ss hload
    exact .inr ⟨ss, hload, rfl⟩

lemma add_cases (t : Tracker) (guard : Guard) (h : TransactionHash) (now : ClockTime) :
    t.orElse (t.add guard h now) = t ∨ ∃ t₁, t.record guard.account h now = .ok t₁ ∧
      t.orElse (t.add guard h now) = (t₁.start guard.account h guard.signal).2 := by
  rw [add]
  split
  · exact .inl rfl
  · rename_i t₁ hr
    exact .inr ⟨t₁, hr, rfl⟩

/-- How a monitor that is there after an event has come about: it was there before, it was started under
a guard that is alive, it has taken a turn, or it was killed. -/
inductive Becomes (t : Tracker) (id : ℕ) : TrackerAction → Monitor → Prop where
  | kept {x : TrackerAction} {m : Monitor} (hm : t.monitors.get? id = some m)
      (hother : ∀ event, x ≠ .step id event) : Becomes t id x m
  | started {x : TrackerAction} {g : ℕ} {guard : Guard} (hg : t.scopes.guards.get? g = some guard)
      (hx : x = .init g ∨ ∃ h now, x = .add g h now) (hid : t.nextMonitor ≤ id)
      (h : TransactionHash) (c : ℕ) :
      Becomes t id x (.fresh guard.account h guard.signal c)
  | turned {event : MonitorEvent} {t' : Tracker} {m m' : Monitor}
      (hm : t.monitors.get? id = some m) (hturn : Turns t m event t' m') :
      Becomes t id (.step id event) m'
  | killed {m : Monitor} (hm : t.monitors.get? id = some m) (hrunning : m.isRunning = true) :
      Becomes t id (.kill id) (m.finish .killed)

/-- There are no other ways for a monitor to come about. -/
lemma act_becomes (h : t.act x = some t') (hm : t'.monitors.get? id = some m) :
    Becomes t id x m := by
  cases x with
  | acquire a =>
      cases h
      exact .kept hm fun _ he => by cases he
  | release g =>
      obtain ⟨-, -, rfl⟩ := Option.map_eq_some_iff.mp h
      exact .kept hm fun _ he => by cases he
  | init g =>
      obtain ⟨guard, hg, rfl⟩ := Option.map_eq_some_iff.mp h
      rcases init_cases t guard with heq | ⟨ss, -, heq⟩ <;> rw [heq] at hm
      · exact .kept hm fun _ he => by cases he
      · rcases (startAll_starts _ _ _ t).fresh hm with hm | ⟨hid, hash, -, c, rfl⟩
        · exact .kept hm fun _ he => by cases he
        · exact .started hg (.inl rfl) hid hash c
  | add g hash now =>
      obtain ⟨guard, hg, rfl⟩ := Option.map_eq_some_iff.mp h
      rcases add_cases t guard hash now with heq | ⟨t₁, hr, heq⟩ <;> rw [heq] at hm
      · exact .kept hm fun _ he => by cases he
      · have hrecord := record_monitors hr
        rcases (start_starts t₁ _ _ _).fresh hm with hm | ⟨hid, hash', -, c, rfl⟩
        · exact .kept (hrecord.1 ▸ hm) fun _ he => by cases he
        · exact .started hg (.inr ⟨hash, now, rfl⟩) (hrecord.2 ▸ hid) hash' c
  | step j event =>
      obtain ⟨n, t₁, n', hn, hturn, rfl⟩ := step_cases h
      rw [get?_place_monitors] at hm
      split at hm
      · rename_i hj
        cases hm
        subst hj
        exact .turned hn hturn
      · rename_i hj
        refine .kept (hturn.writes.monitors ▸ hm) fun e he => hj ?_
        cases he
        rfl
  | kill j =>
      obtain ⟨n, hn, hrunning, rfl⟩ := kill_cases h
      rw [get?_place_monitors] at hm
      split at hm
      · rename_i hj
        cases hm
        subst hj
        exact .killed hn hrunning
      · exact .kept hm fun _ he => by cases he
  | upset load save reload =>
      cases h
      exact .kept hm fun _ he => by cases he

/-- A monitor stays what it is unless it takes a turn or is killed. -/
lemma act_kept (h : t.act x = some t') (hid : id < t.nextMonitor)
    (hstep : ∀ event, x ≠ .step id event) (hkill : x ≠ .kill id) :
    t'.monitors.get? id = t.monitors.get? id := by
  cases x with
  | acquire a =>
      cases h
      rfl
  | release g =>
      obtain ⟨-, -, rfl⟩ := Option.map_eq_some_iff.mp h
      rfl
  | init g =>
      obtain ⟨guard, -, rfl⟩ := Option.map_eq_some_iff.mp h
      rcases init_cases t guard with heq | ⟨ss, -, heq⟩ <;> rw [heq]
      exact (startAll_starts _ _ _ t).kept hid
  | add g hash now =>
      obtain ⟨guard, -, rfl⟩ := Option.map_eq_some_iff.mp h
      rcases add_cases t guard hash now with heq | ⟨t₁, hr, heq⟩ <;> rw [heq]
      have hrecord := record_monitors hr
      rw [(start_starts t₁ _ _ _).kept (hrecord.2 ▸ hid), hrecord.1]
  | step j event =>
      obtain ⟨n, t₁, n', -, hturn, rfl⟩ := step_cases h
      have hne : j ≠ id := fun hj => hstep event (hj ▸ rfl)
      rw [get?_place_monitors, if_neg hne, hturn.writes.monitors]
  | kill j =>
      obtain ⟨n, -, -, rfl⟩ := kill_cases h
      have hne : j ≠ id := fun hj => hkill (hj ▸ rfl)
      rw [get?_place_monitors, if_neg hne]
  | upset load save reload =>
      cases h
      rfl

/-- Only taking a guard and taking it back change the scopes. -/
lemma act_scopes (h : t.act x = some t') :
    (∃ a, x = .acquire a ∧ t'.scopes = (t.scopes.acquire a).2) ∨
      (∃ g, x = .release g ∧ t'.scopes = t.scopes.release g) ∨ t'.scopes = t.scopes := by
  cases x with
  | acquire a =>
      cases h
      exact .inl ⟨a, rfl, rfl⟩
  | release g =>
      obtain ⟨-, -, rfl⟩ := Option.map_eq_some_iff.mp h
      exact .inr (.inl ⟨g, rfl, rfl⟩)
  | init g =>
      obtain ⟨guard, -, rfl⟩ := Option.map_eq_some_iff.mp h
      rcases init_cases t guard with heq | ⟨ss, -, heq⟩ <;> rw [heq]
      · exact .inr (.inr rfl)
      · exact .inr (.inr (startAll_starts _ _ _ t).scopes)
  | add g hash now =>
      obtain ⟨guard, -, rfl⟩ := Option.map_eq_some_iff.mp h
      rcases add_cases t guard hash now with heq | ⟨t₁, hr, heq⟩ <;> rw [heq]
      · exact .inr (.inr rfl)
      · exact .inr (.inr ((start_starts t₁ _ _ _).scopes.trans (record_scopes hr)))
  | step id event =>
      obtain ⟨m, t₁, m', -, hturn, rfl⟩ := step_cases h
      exact .inr (.inr hturn.writes.scopes)
  | kill id =>
      obtain ⟨m, -, -, rfl⟩ := kill_cases h
      exact .inr (.inr rfl)
  | upset load save reload =>
      cases h
      exact .inr (.inr rfl)

/-- What succeeds under a guard that is alive is an event. -/
lemma act_init {g : ℕ} {guard : Guard} {ms : List ℕ} (hg : t.scopes.guards.get? g = some guard)
    (h : t.init guard = .ok (ms, t')) : t.act (.init g) = some t' := by
  rw [act, hg, Option.map_some, h, orElse]

lemma act_add {g : ℕ} {guard : Guard} {h : TransactionHash} {now : ClockTime} {started : Option ℕ}
    (hg : t.scopes.guards.get? g = some guard) (hadd : t.add guard h now = .ok (started, t')) :
    t.act (.add g h now) = some t' := by
  rw [act, hg, Option.map_some, hadd, orElse]

/-- Resuming monitoring starts monitors, and does nothing else. -/
lemma init_starts {guard : Guard} {ms : List ℕ} (h : t.init guard = .ok (ms, t')) :
    ∃ hs, Starts t guard.account guard.signal hs t' := by
  rw [init] at h
  split at h
  · cases h
  · rename_i ss _
    obtain rfl := congrArg Prod.snd (Except.ok.inj h)
    exact ⟨pending ss, startAll_starts ..⟩

lemma init_scopes {guard : Guard} {ms : List ℕ} (h : t.init guard = .ok (ms, t')) :
    t'.scopes = t.scopes := by
  obtain ⟨hs, hstarts⟩ := init_starts h
  exact hstarts.scopes

lemma add_scopes {guard : Guard} {h : TransactionHash} {now : ClockTime} {started : Option ℕ}
    (hadd : t.add guard h now = .ok (started, t')) : t'.scopes = t.scopes := by
  rw [add] at hadd
  split at hadd
  · cases hadd
  · rename_i t₁ hr
    obtain rfl := congrArg Prod.snd (Except.ok.inj hadd)
    exact (start_starts ..).scopes.trans (record_scopes hr)

/-! ### Runs -/

/-- What every event of a run keeps is kept by the run. -/
lemma run_induction {P : Tracker → Prop} {xs : List TrackerAction}
    (hact : ∀ {t t' x}, x ∈ xs → t.act x = some t' → P t → P t') :
    ∀ {t t'}, t.run xs = some t' → P t → P t' := by
  induction xs with
  | nil =>
      intro t t' h hP
      cases h
      exact hP
  | cons x r ih =>
      intro t t' h hP
      obtain ⟨t₁, hx, hr⟩ := Option.bind_eq_some_iff.mp h
      exact ih (fun hmem => hact (List.mem_cons_of_mem x hmem)) hr (hact List.mem_cons_self hx hP)

/-- A run goes on where a run ends. -/
lemma run_append (t : Tracker) (xs ys : List TrackerAction) :
    t.run (xs ++ ys) = (t.run xs).bind fun u => u.run ys := by
  induction xs generalizing t with
  | nil => rfl
  | cons x r ih =>
      rw [List.cons_append, run, run, Option.bind_assoc]
      exact Option.bind_congr fun u _ => ih u

/-- The first tracker becomes the second one in a run. -/
def Reaches (t t' : Tracker) : Prop := ∃ xs, t.run xs = some t'

lemma Reaches.refl (t : Tracker) : t.Reaches t := ⟨[], rfl⟩

lemma Reaches.trans {t'' : Tracker} (h : t.Reaches t') (h' : t'.Reaches t'') : t.Reaches t'' := by
  obtain ⟨xs, hxs⟩ := h
  obtain ⟨ys, hys⟩ := h'
  exact ⟨xs ++ ys, by rw [run_append, hxs, Option.bind_some, hys]⟩

lemma Reaches.of_act (h : t.act x = some t') : t.Reaches t' :=
  ⟨[x], by rw [run, h, Option.bind_some, run]⟩

lemma reaches_acquire (t : Tracker) (a : Account) : t.Reaches (t.acquire a).2 :=
  .of_act (x := .acquire a) rfl

/-- A guard that is not alive makes no difference when it is released. -/
lemma reaches_release (t : Tracker) (g : ℕ) : t.Reaches (t.release g) := by
  cases hg : t.scopes.guards.get? g with
  | none =>
      have hsame : t.scopes.release g = t.scopes := by rw [Scopes.release, hg]
      rw [release, hsame]
      exact .refl t
  | some guard => exact .of_act (x := .release g) (by rw [act, hg, Option.map_some])

end Tracker

end ChainElection
