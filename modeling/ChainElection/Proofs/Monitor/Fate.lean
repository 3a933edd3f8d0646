import Mathlib.Tactic
import ChainElection.Proofs.Monitor.Watch

/-!
Fates: what a monitor comes to if it is known what it will be told.

* `Fate` fixes how finality comes out for a submission and what its polls get,
  `Fate.destination` where the submission comes to by that.
* `Fate.Along` says where on this way a monitor is, and with which status.
* `Tracker.Clear`: nothing holds a monitor up. Its rounds are then known:
  `Clear.along_poll`, `Clear.along_beginRound`, `Clear.endRound`.
* `Clear.along_turn`: every turn takes a monitor on, and writes at most the next
  status of its own submission.
-/

namespace ChainElection

/-! ### Fates -/

/-- What a submission's monitor is told: how finality comes out, how many polls find nothing, and what
the first poll after them gets. -/
structure Fate where
  finality : Except ClientError TransactionOutcome
  delay : ℕ
  verdict : Except ClientError SubmissionRecord

namespace Fate

/-- The answer to the poll of a number; polls are counted from one. -/
def answer (f : Fate) (polls : ℕ) : Except ClientError (Option SubmissionRecord) :=
  if polls ≤ f.delay then .ok none else f.verdict.map some

/-- Where an approved submission comes to. -/
def judged (f : Fate) : SubmissionStatus :=
  match f.verdict with
  | .ok r => Tracker.statusOfVerdict r.verified
  | .error _ => .approved

/-- Where a submission comes to that was first seen with a status, if an approved one comes to another. -/
def follow (f : Fate) (judged : SubmissionStatus) : SubmissionStatus → SubmissionStatus
  | .committed =>
    match f.finality with
    | .ok .success => judged
    | .ok (.failure _) => .rejected
    | .error _ => .committed
  | .approved => judged
  | status => status

/-- Where a submission comes to that was first seen with a status. -/
def destination (f : Fate) : SubmissionStatus → SubmissionStatus := f.follow f.judged

/-- Where it comes to if polls are counted by a word of 32 bits: one that takes more of them is never
judged. -/
def reached (f : Fate) : SubmissionStatus → SubmissionStatus :=
  f.follow (if f.delay < Numeral.max32 then f.judged else .approved)

/-- A submission first seen with this status comes to be approved. -/
def Approves (f : Fate) (first : SubmissionStatus) : Prop :=
  first = .approved ∨ first = .committed ∧ f.finality = .ok .success

lemma Approves.follow {f : Fate} {first : SubmissionStatus} (h : f.Approves first)
    (judged : SubmissionStatus) : f.follow judged first = judged := by
  rcases h with rfl | ⟨rfl, hfinality⟩
  · rfl
  · rw [Fate.follow, hfinality]

lemma follow_of_isFinal {f : Fate} {first : SubmissionStatus} (h : first.isFinal = true)
    (judged : SubmissionStatus) : f.follow judged first = first := by
  cases first with
  | committed => cases h
  | approved => cases h
  | _ => rfl

/-- The words are large enough, or the submission is left approved. -/
lemma reached_cases (f : Fate) (first : SubmissionStatus) :
    f.reached first = f.destination first ∨
      Numeral.max32 ≤ f.delay ∧ f.reached first = .approved := by
  rw [reached, destination]
  split
  · exact .inl rfl
  · rename_i hdelay
    by_cases happroves : f.Approves first
    · exact .inr ⟨not_lt.mp hdelay, happroves.follow _⟩
    · left
      cases first with
      | approved => exact absurd (.inl rfl) happroves
      | committed =>
          simp only [follow]
          split
          · rename_i hfinality
            exact absurd (.inr ⟨rfl, hfinality⟩) happroves
          · rfl
          · rfl
      | _ => rfl

lemma answer_eq_none {f : Fate} {polls : ℕ} : f.answer polls = .ok none ↔ polls ≤ f.delay := by
  rw [answer]
  split
  · rename_i h
    exact ⟨fun _ => h, fun _ => rfl⟩
  · rename_i h
    cases f.verdict <;> simp [Except.map, h]

lemma answer_eq_some {f : Fate} {polls : ℕ} {r : SubmissionRecord} :
    f.answer polls = .ok (some r) ↔ f.delay < polls ∧ f.verdict = .ok r := by
  rw [answer]
  split
  · rename_i h
    simp [h]
  · rename_i h
    rw [not_le] at h
    cases f.verdict <;> simp [Except.map, h]

lemma answer_eq_error {f : Fate} {polls : ℕ} {e : ClientError} :
    f.answer polls = .error e ↔ f.delay < polls ∧ f.verdict = .error e := by
  rw [answer]
  split
  · rename_i h
    simp [h]
  · rename_i h
    rw [not_le] at h
    cases f.verdict <;> simp [Except.map, h]

/-- The event is what the fate has in store for the monitor. -/
def Heeds (f : Fate) (m : Monitor) : MonitorEvent → Prop
  | .finalized outcome => outcome = f.finality
  | .answered answer => answer = f.answer m.effort.polls
  | _ => True

/-- How far a monitor has come on the way of its submission, and with which status: first seen was
another one, or the same. -/
inductive Along (f : Fate) (first : SubmissionStatus) : SubmissionStatus → Monitor → Prop where
  | ready {m : Monitor} (hphase : m.phase = .ready) (hpending : first.isFinal = false)
      (hpolls : m.effort.polls = 0) : Along f first first m
  | waiting {m : Monitor} (hphase : m.phase = .awaitingFinality) (hfirst : first = .committed)
      (hpolls : m.effort.polls = 0) : Along f first .committed m
  | polling {m : Monitor} {polls : UInt32} (hphase : m.phase = .polling polls)
      (hpolls : polls.toNat = m.effort.polls) (hdelay : polls.toNat ≤ f.delay + 1)
      (happroves : f.Approves first) : Along f first .approved m
  | sleeping {m : Monitor} {polls : UInt32} (hphase : m.phase = .sleeping polls)
      (hpolls : polls.toNat = m.effort.polls) (hdelay : polls.toNat ≤ f.delay)
      (happroves : f.Approves first) : Along f first .approved m
  | arrived {m : Monitor} {how : MonitorEnd} (hphase : m.phase = .ended how)
      (hend : how ≠ .brokeDown) (heq : f.reached first = f.destination first) :
      Along f first (f.destination first) m
  | overrun {m : Monitor} (hphase : m.phase = .ended .brokeDown)
      (hdelay : Numeral.max32 ≤ f.delay) (happroves : f.Approves first) : Along f first .approved m

lemma Along.of_arrived {f : Fate} {first last : SubmissionStatus} {m : Monitor} {how : MonitorEnd}
    (hphase : m.phase = .ended how) (hend : how ≠ .brokeDown) (hdest : f.destination first = last)
    (hreached : f.reached first = last) : f.Along first last m := by
  subst hdest
  exact .arrived hphase hend hreached

end Fate

namespace Tracker

open Submission

variable {t t' : Tracker} {m m' : Monitor} {event : MonitorEvent} {id σ : ℕ} {x : TrackerAction}
  {a : Account} {ss : List Submission} {f : Fate} {first now : SubmissionStatus}

lemma Writes.inOrder (h : Writes t m t') (hstore : t.store.InOrder) : t'.store.InOrder := by
  cases h with
  | nothing => exact hstore
  | step _ _ hsave => exact hstore.of_save hsave

/-! ### Rounds of a monitor that nothing holds up -/

/-- A monitor goes on under these circumstances: its signal is alive, its polls are not limited, and the
store works and has its submission at a status. -/
structure Clear (t : Tracker) (m : Monitor) (now : SubmissionStatus) : Prop where
  live : t.scopes.isAborted m.signal = false
  unlimited : t.settings.maxPolls = none
  inOrder : t.store.InOrder
  status : ∃ ss, t.store.contents m.account = .ok ss ∧ statusIn ss m.hash = some now

lemma Clear.statusOf (h : t.Clear m now) : t.statusOf (nextRound m) = .ok (some now) := by
  obtain ⟨ss, hss, hstatus⟩ := h.status
  have hload : t.store.load (nextRound m).account = .ok ss := (h.inOrder.load_eq _).trans hss
  rw [statusOf_of_load hload]
  exact congrArg Except.ok hstatus

/-- A poll that may be made: it is on its way, or it does not fit the count any more. -/
lemma Clear.along_poll (h : t.Clear m .approved) {polls : UInt32}
    (hpolls : polls.toNat = m.effort.polls) (hdelay : polls.toNat ≤ f.delay)
    (happroves : f.Approves first) : f.Along first .approved (t.poll m polls) := by
  by_cases hroom : polls.toNat = Numeral.max32
  · rw [poll_of_full h.unlimited hroom]
    exact .overrun rfl (hroom ▸ hdelay) happroves
  · have hsucc := toNat_succ hroom
    rw [poll_of_unlimited h.unlimited hroom]
    refine .polling rfl ?_ ?_ happroves
    · rw [hsucc, hpolls]
      rfl
    · omega

lemma Clear.beginRound_of_committed (h : t.Clear m .committed) :
    (t.beginRound m).phase = .awaitingFinality ∧
      (t.beginRound m).effort.polls = m.effort.polls := by
  have hstatus := h.statusOf
  rw [nextRound] at hstatus
  rw [beginRound]
  simp only [h.live, Bool.false_eq_true, if_false, hstatus, Monitor.phase_goTo, Monitor.effort_goTo,
    and_self]

lemma Clear.beginRound_of_approved (h : t.Clear m .approved) :
    t.beginRound m = t.poll (nextRound m) 0 := by
  have hstatus := h.statusOf
  rw [nextRound] at hstatus ⊢
  rw [beginRound]
  simp only [h.live, Bool.false_eq_true, if_false, hstatus]

lemma Clear.beginRound_of_isFinal (h : t.Clear m now) (hnow : now.isFinal = true) :
    (t.beginRound m).phase = .ended .settled := by
  have hstatus := h.statusOf
  rw [nextRound] at hstatus
  rw [beginRound]
  simp only [h.live, Bool.false_eq_true, if_false, hstatus]
  cases now with
  | committed => cases hnow
  | approved => cases hnow
  | _ => rfl

/-- A monitor that is to move its submission does so, and begins the next round with its new status. -/
lemma Clear.endRound {next : SubmissionStatus} (h : t.Clear m now) (hlegal : now.canBecome next = true)
    (hss : t.store.contents m.account = .ok ss) :
    ∃ t₁ m₁ ss', t.endRound m next = (t₁, t₁.beginRound m₁) ∧ t₁.Clear m₁ next ∧
      m₁.effort.polls = m.effort.polls ∧ moveFirst m.hash next ss = some (.ok ss') ∧
      t₁.store.contents m.account = .ok ss' := by
  obtain ⟨ss₀, hss₀, hstatus⟩ := h.status
  obtain rfl : ss = ss₀ := Except.ok.inj (hss.symm.trans hss₀)
  have hload : t.store.load m.account = .ok ss := (h.inOrder.load_eq _).trans hss
  obtain ⟨ss', hmove⟩ := moveFirst_of_statusIn hstatus hlegal
  obtain ⟨store, hsave⟩ := h.inOrder.exists_save m.account ss'
  have hcontents := (moveFirst_changes hmove).contents_save hload hsave m.account
  rw [if_pos rfl] at hcontents
  have hmoved : statusIn ss' m.hash = some next := by
    obtain ⟨pre, s, post, -, hash, hpre, -, rfl⟩ := moveFirst_cases hmove
    rw [statusIn_append_of_notMem hpre, ← hash]
    exact statusIn_cons_self _ _
  refine ⟨{ t with store := store, updates := t.updates ++ [⟨m.account, m.hash, next⟩] },
    { m with effort := { m.effort with writes := m.effort.writes + 1 } }, ss', ?_, ?_, rfl, hmove,
    hcontents⟩
  · rw [Tracker.endRound, persist, hload]
    simp only [hmove, hsave]
  · exact ⟨h.live, h.unlimited, h.inOrder.of_save hsave, ss', hcontents, hmoved⟩

/-! ### One turn -/

/-- What the list of a submission becomes that goes from a status to another one, which may be the same. -/
def Goes (h : TransactionHash) (now next : SubmissionStatus) (ss ss' : List Submission) : Prop :=
  next = now ∧ ss' = ss ∨ moveFirst h next ss = some (.ok ss')

/-- What comes of a turn: the monitor is further on its way, and the list of its account is what it
was, but for the status of its submission. -/
def Proceeds (f : Fate) (first now : SubmissionStatus) (m : Monitor) (ss : List Submission)
    (t' : Tracker) (m' : Monitor) : Prop :=
  ∃ next ss', f.Along first next m' ∧ t'.store.contents m.account = .ok ss' ∧
    Goes m.hash now next ss ss'

lemma proceeds_of_along (hss : t.store.contents m.account = .ok ss) (h : f.Along first now m') :
    Proceeds f first now m ss t m' :=
  ⟨now, ss, h, hss, .inl ⟨rfl, rfl⟩⟩

/-- A monitor that begins a round goes for what its submission needs. -/
lemma Clear.along_beginRound (h : t.Clear m now) (hpending : now.isFinal = false)
    (hpolls : m.effort.polls = 0) (hfirst : now = first ∨ now = .approved ∧ f.Approves first) :
    f.Along first now (t.beginRound m) := by
  cases now with
  | committed =>
      obtain ⟨hphase, heffort⟩ := h.beginRound_of_committed
      have hcommitted : first = .committed := by
        rcases hfirst with rfl | ⟨hnow, -⟩
        · rfl
        · cases hnow
      exact .waiting hphase hcommitted (heffort.trans hpolls)
  | approved =>
      have happroves : f.Approves first := by
        rcases hfirst with rfl | ⟨-, happroves⟩
        · exact .inl rfl
        · exact happroves
      have hclear : t.Clear (nextRound m) .approved := ⟨h.live, h.unlimited, h.inOrder, h.status⟩
      rw [h.beginRound_of_approved]
      exact hclear.along_poll hpolls.symm (Nat.zero_le _) happroves
  | _ => cases hpending

/-- A monitor that settles its submission has arrived. -/
lemma Clear.proceeds_settle {next : SubmissionStatus} (h : t.Clear m now)
    (hlegal : now.canBecome next = true) (hfinal : next.isFinal = true)
    (hss : t.store.contents m.account = .ok ss) (hdest : f.destination first = next)
    (hreached : f.reached first = next) :
    Proceeds f first now m ss (t.endRound m next).1 (t.endRound m next).2 := by
  obtain ⟨t₁, m₁, ss', hround, hclear, -, hmove, hss'⟩ := h.endRound hlegal hss
  have hphase := hclear.beginRound_of_isFinal hfinal
  rw [hround]
  exact ⟨next, ss', .of_arrived hphase (by simp) hdest hreached, hss', .inr hmove⟩

/-- The node's answer takes a submission on. -/
lemma Clear.proceeds_finalized (h : t.Clear m .committed) (hpolls : m.effort.polls = 0)
    (hss : t.store.contents m.account = .ok ss) {outcome : TransactionOutcome}
    (hfinality : f.finality = .ok outcome) :
    Proceeds f .committed .committed m ss (t.endRound m (statusAfter outcome)).1
      (t.endRound m (statusAfter outcome)).2 := by
  cases outcome with
  | success =>
      have hlegal : SubmissionStatus.canBecome .committed .approved = true := rfl
      obtain ⟨t₁, m₁, ss', hround, hclear, heffort, hmove, hss'⟩ := h.endRound hlegal hss
      have halong : f.Along .committed .approved (t₁.beginRound m₁) :=
        hclear.along_beginRound rfl (heffort.trans hpolls) (.inr ⟨rfl, .inr ⟨rfl, hfinality⟩⟩)
      rw [statusAfter, hround]
      exact ⟨.approved, ss', halong, hss', .inr hmove⟩
  | failure reason =>
      have hfollow : ∀ judged, f.follow judged .committed = .rejected := by
        intro judged
        rw [Fate.follow, hfinality]
      exact h.proceeds_settle rfl rfl hss (hfollow _) (hfollow _)

/-- A failure of the node leaves a submission where it is. -/
lemma along_nodeFailed {e : ClientError} (hfinality : f.finality = .error e) :
    f.Along .committed .committed (m.finish (.failed .node e)) := by
  have hfollow : ∀ judged, f.follow judged .committed = .committed := by
    intro judged
    rw [Fate.follow, hfinality]
  exact .of_arrived rfl (by simp) (hfollow _) (hfollow _)

/-- A verdict takes a submission to its end. -/
lemma Clear.proceeds_judged (h : t.Clear m .approved) (hss : t.store.contents m.account = .ok ss)
    (happroves : f.Approves first) {polls : UInt32} (hdelay : f.delay < polls.toNat)
    {r : SubmissionRecord} (hverdict : f.verdict = .ok r) :
    Proceeds f first .approved m ss (t.endRound m (statusOfVerdict r.verified)).1
      (t.endRound m (statusOfVerdict r.verified)).2 := by
  have hlt := polls.toNat_lt
  have hmax : Numeral.max32 = 4294967295 := rfl
  have hcounted : f.delay < Numeral.max32 := by omega
  have hdest : f.destination first = statusOfVerdict r.verified := calc
    f.destination first = f.judged := happroves.follow _
    _ = statusOfVerdict r.verified := by rw [Fate.judged, hverdict]
  have hreached : f.reached first = statusOfVerdict r.verified := by
    rw [Fate.reached, if_pos hcounted]
    exact hdest
  refine h.proceeds_settle ?_ ?_ hss hdest hreached <;> cases r.verified <;> rfl

/-- A failure of the verification service leaves a submission where it is. -/
lemma along_verifierFailed {e : ClientError} (happroves : f.Approves first)
    (hverdict : f.verdict = .error e) : f.Along first .approved (m.finish (.failed .verifier e)) := by
  have hjudged : f.judged = .approved := by rw [Fate.judged, hverdict]
  refine .of_arrived rfl (by simp) ((happroves.follow _).trans hjudged) ?_
  rw [Fate.reached, hjudged, ite_self]
  exact happroves.follow _

/-- A monitor that is on its way and gets what its fate has in store goes on with its way. -/
theorem Clear.along_turn (h : t.Clear m now) (hm : f.Along first now m)
    (hturn : Turns t m event t' m') (hheeds : f.Heeds m event)
    (hss : t.store.contents m.account = .ok ss) : Proceeds f first now m ss t' m' := by
  have hlive : t.scopes.isAborted m.signal ≠ true := by simp [h.live]
  cases hturn with
  | stopped _ haborted => exact absurd haborted hlive
  | gaveUp _ haborted _ => exact absurd haborted hlive
  | started hphase =>
      cases hm with
      | ready _ hpending hpolls =>
          exact proceeds_of_along hss (h.along_beginRound hpending hpolls (.inl rfl))
      | _ => simp_all
  | nodeFailed hphase e =>
      cases hm with
      | waiting _ hfirst _ =>
          subst hfirst
          exact proceeds_of_along hss (along_nodeFailed (Eq.symm hheeds))
      | _ => simp_all
  | finalized hphase _ outcome =>
      cases hm with
      | waiting _ hfirst hpolls =>
          subst hfirst
          exact h.proceeds_finalized hpolls hss (Eq.symm hheeds)
      | _ => simp_all
  | judged hphase _ r =>
      cases hm with
      | polling _ hpolls _ happroves =>
          obtain ⟨hlate, hverdict⟩ := Fate.answer_eq_some.mp (Eq.symm hheeds)
          exact h.proceeds_judged hss happroves (hpolls ▸ hlate) hverdict
      | _ => simp_all
  | verifierFailed hphase e =>
      cases hm with
      | polling _ _ _ happroves =>
          obtain ⟨-, hverdict⟩ := Fate.answer_eq_error.mp (Eq.symm hheeds)
          exact proceeds_of_along hss (along_verifierFailed happroves hverdict)
      | _ => simp_all
  | fellAsleep hphase _ =>
      cases hm with
      | polling hphase' hpolls _ happroves =>
          obtain rfl := MonitorPhase.polling.inj (hphase.symm.trans hphase')
          have hearly := Fate.answer_eq_none.mp (Eq.symm hheeds)
          exact proceeds_of_along hss (.sleeping rfl hpolls (hpolls ▸ hearly) happroves)
      | _ => simp_all
  | awoke hphase _ failure =>
      cases hm with
      | sleeping hphase' hpolls hdelay happroves =>
          obtain rfl := MonitorPhase.sleeping.inj (hphase.symm.trans hphase')
          exact proceeds_of_along hss (h.along_poll hpolls hdelay happroves)
      | _ => simp_all

end Tracker

end ChainElection
