import Mathlib.Tactic
import ChainElection.Http.Waiting
import ChainElection.Proofs.Http.Exchange

/-!
How long a node is asked for the outcome of a transaction, and what comes of it.

* `HttpReply.IsPending` and `NodeGateway.Settles` say what a reply means: that
  nothing is known yet, or how the wait ends. `judge_eq_none_iff` and
  `Settles.judge` say that they are what replies are judged by, and
  `not_isPending_iff` that a reply is one or the other and settles the wait in one
  way only.
* `wait_of_pending` and `wait_of_settles`: what was done until then, event by
  event, and that nothing is done afterwards.
* `exists_of_over`: a wait is over because of the first reply that settles it.
* `awaitFinality_eq`: asking at most a number of times is a beginning of the wait.
-/

namespace ChainElection

/-- The reply says that the transaction is still pending. -/
def HttpReply.IsPending (reply : HttpReply) : Prop := ∃ a, reply = .answered a ∧ a.status = 202

/-- An exchange after a number of requests that are all alike. -/
def Exchange.stateAfter {σ : Type} (ex : Exchange σ) (r : HttpRequest) (s : σ) : ℕ → σ
  | 0 => s
  | k + 1 => (ex.answer r (ex.stateAfter r s k)).2

/-- What comes back for each of many requests that are all alike. -/
def Exchange.replies {σ : Type} (ex : Exchange σ) (r : HttpRequest) (s : σ) (k : ℕ) : HttpReply :=
  (ex.answer r (ex.stateAfter r s k)).1

namespace NodeGateway

open Exchange

variable {σ : Type} {n : NodeGateway} {interval : ℕ} {ex : Exchange σ} {h : TransactionHash} {s : σ}
  {reply : HttpReply} {o o' : Except ClientError TransactionOutcome} {k m : ℕ}

/-! ### Replies -/

/-- The status says neither that the transaction is pending or unknown nor that something went wrong. -/
def IsPlain (status : ℕ) : Prop := status ≠ 202 ∧ ¬(400 ≤ status ∧ status < 600)

/-- How a reply ends a wait. -/
inductive Settles (h : TransactionHash) : HttpReply → Except ClientError TransactionOutcome → Prop where
  | closed : Settles h .closed (.error (.http .transport))
  | unknown {a : HttpAnswer} (hstatus : a.status = 404) :
      Settles h (.answered a) (.error (.node s!"unknown transaction {h.text}"))
  | refused {a : HttpAnswer} (hunknown : a.status ≠ 404) (hstatus : 400 ≤ a.status ∧ a.status < 600) :
      Settles h (.answered a) (.error (.http (.status a.status)))
  | broken {a : HttpAnswer} (hstatus : IsPlain a.status) (hbroken : a.body.broken = true) :
      Settles h (.answered a) (.error (.http .transport))
  | undecodable {a : HttpAnswer} {f : Json.Fault} (hstatus : IsPlain a.status)
      (hbroken : a.body.broken = false)
      (hdecode : Json.decode TransactionOutcome.ofJson a.body.chunks.flatten = .error f) :
      Settles h (.answered a) (.error (.http .decode))
  | finalized {a : HttpAnswer} {outcome : TransactionOutcome} (hstatus : IsPlain a.status)
      (hbroken : a.body.broken = false)
      (hdecode : Json.decode TransactionOutcome.ofJson a.body.chunks.flatten = .ok outcome) :
      Settles h (.answered a) (.ok outcome)

lemma judge_eq_none_iff : judge h (received reply) = none ↔ reply.IsPending := by
  cases reply with
  | closed => exact ⟨fun hjudge => (by cases hjudge), fun ⟨_, ha, _⟩ => (by cases ha)⟩
  | answered a =>
      have hpending : (HttpReply.answered a).IsPending ↔ a.status = 202 :=
        ⟨fun ⟨_, ha, hstatus⟩ => HttpReply.answered.inj ha ▸ hstatus, fun hstatus => ⟨a, rfl, hstatus⟩⟩
      rw [hpending, received, judge]
      split_ifs with haccepted hunknown
      · exact ⟨fun _ => haccepted, fun _ => rfl⟩
      · exact ⟨fun hjudge => (by cases hjudge), fun h => absurd h haccepted⟩
      · refine ⟨fun hjudge => ?_, fun h => absurd h haccepted⟩
        split at hjudge <;> cases hjudge

/-- What an answer comes to if it is asked for a value and its status is plain. -/
lemma expect_of_isPlain {a : HttpAnswer} (hstatus : IsPlain a.status)
    (d : Json.Decoder TransactionOutcome) : a.expect d = a.json? d := by
  rw [HttpAnswer.expect, HttpAnswer.success?, if_neg hstatus.2]

lemma Settles.judge (hsettles : Settles h reply o) : judge h (received reply) = some o := by
  cases hsettles with
  | closed => rfl
  | unknown hstatus => simp [received, NodeGateway.judge, hstatus]
  | @refused a hunknown hstatus =>
      have haccepted : a.status ≠ 202 := by omega
      have hrefused : a.expect TransactionOutcome.ofJson = .error (.status a.status) := by
        rw [HttpAnswer.expect, HttpAnswer.success?, if_pos hstatus]
      simp only [received, NodeGateway.judge, if_neg haccepted, if_neg hunknown, hrefused]
  | @broken a hstatus hbroken =>
      have hunknown : a.status ≠ 404 := fun h404 => hstatus.2 (by omega)
      simp only [received, NodeGateway.judge, if_neg hstatus.1, if_neg hunknown,
        expect_of_isPlain hstatus, HttpAnswer.json?, HttpBody.bytes?, hbroken, if_true]
  | @undecodable a f hstatus hbroken hdecode =>
      have hunknown : a.status ≠ 404 := fun h404 => hstatus.2 (by omega)
      simp only [received, NodeGateway.judge, if_neg hstatus.1, if_neg hunknown,
        expect_of_isPlain hstatus, HttpAnswer.json?, HttpBody.bytes?, hbroken, hdecode,
        Bool.false_eq_true, if_false]
  | @finalized a outcome hstatus hbroken hdecode =>
      have hunknown : a.status ≠ 404 := fun h404 => hstatus.2 (by omega)
      simp only [received, NodeGateway.judge, if_neg hstatus.1, if_neg hunknown,
        expect_of_isPlain hstatus, HttpAnswer.json?, HttpBody.bytes?, hbroken, hdecode,
        Bool.false_eq_true, if_false]

/-- A reply that is not pending settles the wait. -/
lemma exists_settles (hpending : ¬ reply.IsPending) : ∃ o, Settles h reply o := by
  cases reply with
  | closed => exact ⟨_, .closed⟩
  | answered a =>
      have haccepted : a.status ≠ 202 := fun hstatus => hpending ⟨a, rfl, hstatus⟩
      by_cases hunknown : a.status = 404
      · exact ⟨_, .unknown hunknown⟩
      by_cases hrefused : 400 ≤ a.status ∧ a.status < 600
      · exact ⟨_, .refused hunknown hrefused⟩
      cases hbroken : a.body.broken with
      | true => exact ⟨_, .broken ⟨haccepted, hrefused⟩ hbroken⟩
      | false =>
          cases hdecode : Json.decode TransactionOutcome.ofJson a.body.chunks.flatten with
          | error f => exact ⟨_, .undecodable ⟨haccepted, hrefused⟩ hbroken hdecode⟩
          | ok outcome => exact ⟨_, .finalized ⟨haccepted, hrefused⟩ hbroken hdecode⟩

/-- Of pending and settled, a reply is just one, and it is settled in one way. -/
lemma not_isPending_iff : ¬ reply.IsPending ↔ ∃! o, Settles h reply o := by
  constructor
  · intro hpending
    obtain ⟨o, ho⟩ := exists_settles hpending
    refine ⟨o, ho, fun o' ho' => ?_⟩
    exact Option.some.inj (ho'.judge.symm.trans ho.judge)
  · rintro ⟨o, ho, -⟩ hpending
    have hjudge := ho.judge
    rw [judge_eq_none_iff.mpr hpending] at hjudge
    cases hjudge

/-! ### The course of a wait -/

/-- The requests that were answered by pending, each of them with the interval that was slept after it. -/
def pauses (r : HttpRequest) (interval : ℕ) (replies : ℕ → HttpReply) (k : ℕ) : List WaitEvent :=
  (List.range k).flatMap fun i => [.sent ⟨r, replies i⟩, .slept interval]

lemma pauses_succ (r : HttpRequest) (interval : ℕ) (replies : ℕ → HttpReply) (k : ℕ) :
    pauses r interval replies (k + 1) =
      pauses r interval replies k ++ [.sent ⟨r, replies k⟩, .slept interval] := by
  rw [pauses, List.range_succ, List.flatMap_append, List.flatMap_singleton]
  rfl

/-- What is done when a request is due. -/
lemma goOn_due (husable : Address.isUsable (n.finalityRequest h).url = true) (s : σ)
    (events : List WaitEvent) : n.goOn interval ex h ⟨s, events, .due⟩ =
      ⟨(ex.answer (n.finalityRequest h) s).2,
        events ++ [.sent ⟨n.finalityRequest h, (ex.answer (n.finalityRequest h) s).1⟩],
        nextPhase (judge h (received (ex.answer (n.finalityRequest h) s).1))⟩ := by
  simp only [goOn, ex.ask_recorded husable, List.nil_append, List.map_cons, List.map_nil]

/-- As long as all replies are pending, each request is followed by one interval of sleep. -/
lemma wait_of_pending (husable : Address.isUsable (n.finalityRequest h).url = true)
    (hpending : ∀ i < k, (ex.replies (n.finalityRequest h) s i).IsPending) :
    n.wait interval ex h s (2 * k) = ⟨ex.stateAfter (n.finalityRequest h) s k,
      pauses (n.finalityRequest h) interval (ex.replies (n.finalityRequest h) s) k, .due⟩ := by
  induction k with
  | zero => rfl
  | succ k ih =>
      have hlast : judge h (received (ex.replies (n.finalityRequest h) s k)) = none :=
        judge_eq_none_iff.mpr (hpending k (Nat.lt_succ_self k))
      rw [replies] at hlast
      rw [Nat.mul_succ, wait, wait, ih fun i hi => hpending i (Nat.lt_succ_of_lt hi), goOn_due husable,
        hlast, pauses_succ]
      simp only [nextPhase, goOn, List.append_assoc]
      rfl

lemma wait_of_over {j : ℕ} (hover : (n.wait interval ex h s m).phase = .over o) :
    n.wait interval ex h s (m + j) = n.wait interval ex h s m := by
  induction j with
  | zero => rfl
  | succ j ih => rw [← Nat.add_assoc, wait, ih, goOn, hover]

/-- The first reply that settles a wait ends it, and nothing is done any more. -/
lemma wait_of_settles (husable : Address.isUsable (n.finalityRequest h).url = true)
    (hpending : ∀ i < k, (ex.replies (n.finalityRequest h) s i).IsPending)
    (hsettles : Settles h (ex.replies (n.finalityRequest h) s k) o) (hm : 2 * k + 1 ≤ m) :
    n.wait interval ex h s m = ⟨ex.stateAfter (n.finalityRequest h) s (k + 1),
      pauses (n.finalityRequest h) interval (ex.replies (n.finalityRequest h) s) k ++
        [.sent ⟨n.finalityRequest h, ex.replies (n.finalityRequest h) s k⟩], .over o⟩ := by
  have hlast : n.wait interval ex h s (2 * k + 1) = ⟨ex.stateAfter (n.finalityRequest h) s (k + 1),
      pauses (n.finalityRequest h) interval (ex.replies (n.finalityRequest h) s) k ++
        [.sent ⟨n.finalityRequest h, ex.replies (n.finalityRequest h) s k⟩], .over o⟩ := by
    have hjudge := hsettles.judge
    rw [replies] at hjudge
    rw [wait, wait_of_pending husable hpending, goOn_due husable, hjudge]
    rfl
  obtain ⟨j, rfl⟩ := Nat.exists_eq_add_of_le hm
  rw [wait_of_over (congrArg Wait.phase hlast), hlast]

/-- A wait that is over is so because of the first reply that is not pending. -/
lemma exists_of_over (husable : Address.isUsable (n.finalityRequest h).url = true)
    (hover : (n.wait interval ex h s m).phase = .over o) :
    ∃ k, 2 * k + 1 ≤ m ∧ (∀ i < k, (ex.replies (n.finalityRequest h) s i).IsPending) ∧
      Settles h (ex.replies (n.finalityRequest h) s k) o := by
  -- Where all replies are pending for long enough, the wait is known not to be over.
  have hearly : ∀ k, (∀ i < k, (ex.replies (n.finalityRequest h) s i).IsPending) → 2 * k + 1 ≤ m := by
    intro k hpending
    by_contra hlate
    obtain ⟨j, hj⟩ := Nat.exists_eq_add_of_le (show m ≤ 2 * k by omega)
    have hdue : (n.wait interval ex h s (2 * k)).phase = .due :=
      congrArg Wait.phase (wait_of_pending husable hpending)
    rw [hj, wait_of_over hover, hover] at hdue
    cases hdue
  have hsettled : ∃ k, ¬ (ex.replies (n.finalityRequest h) s k).IsPending := by
    by_contra hall
    push Not at hall
    have := hearly m fun i _ => hall i
    omega
  classical
  have hpending : ∀ i < Nat.find hsettled, (ex.replies (n.finalityRequest h) s i).IsPending :=
    fun i hi => not_not.mp (Nat.find_min hsettled hi)
  obtain ⟨o', ho'⟩ := exists_settles (h := h) (Nat.find_spec hsettled)
  have hover' : (n.wait interval ex h s m).phase = .over o' :=
    congrArg Wait.phase (wait_of_settles husable hpending ho' (hearly _ hpending))
  obtain rfl := WaitPhase.over.inj (hover.symm.trans hover')
  exact ⟨_, hearly _ hpending, hpending, ho'⟩

/-- An address that is of no use is not asked at all. -/
lemma wait_of_unusable (husable : Address.isUsable (n.finalityRequest h).url = false) (m : ℕ) :
    n.wait interval ex h s (m + 1) = ⟨s, [], .over (.error (.http .builder))⟩ := by
  have hfirst : n.wait interval ex h s 1 = ⟨s, [], .over (.error (.http .builder))⟩ := by
    simp only [wait, Wait.start, goOn, Exchange.ask, husable]
    rfl
  rw [Nat.add_comm, wait_of_over (congrArg Wait.phase hfirst), hfirst]

/-! ### Asking a number of times -/

lemma wait_eq_iterate (m : ℕ) : n.wait interval ex h s m = (n.goOn interval ex h)^[m] (.start s) := by
  induction m with
  | zero => rfl
  | succ m ih => rw [wait, ih, Function.iterate_succ_apply']

lemma goOn_iterate_over (events : List WaitEvent) (m : ℕ) :
    (n.goOn interval ex h)^[m] ⟨s, events, .over o⟩ = ⟨s, events, .over o⟩ :=
  Function.iterate_fixed rfl m

/-- A request that is due, and what is made of what comes back. -/
lemma goOn_due_of_ask {a : Except HttpFault HttpAnswer} {s s' : σ}
    (hask : ex.ask (n.finalityRequest h) s = (a, s')) (events : List WaitEvent) :
    ∃ sent, n.goOn interval ex h ⟨s, events, .due⟩ = ⟨s', events ++ sent, nextPhase (judge h a)⟩ := by
  rw [Exchange.ask] at hask
  cases husable : Address.isUsable (n.finalityRequest h).url with
  | false =>
      rw [husable] at hask
      cases hask
      exact ⟨[], by simp [goOn, Exchange.ask, husable]⟩
  | true =>
      refine ⟨[.sent ⟨n.finalityRequest h, (ex.answer (n.finalityRequest h) s).1⟩], ?_⟩
      rw [goOn_due husable]
      generalize ex.answer (n.finalityRequest h) s = p at hask ⊢
      obtain ⟨reply, s₁⟩ := p
      rw [husable] at hask
      cases reply <;> cases hask <;> rfl

lemma awaitFinality_eq_iterate (patience : ℕ) (s : σ) (events : List WaitEvent) :
    n.awaitFinality ex h patience s =
      (((n.goOn interval ex h)^[2 * patience] ⟨s, events, .due⟩).outcome?,
        ((n.goOn interval ex h)^[2 * patience] ⟨s, events, .due⟩).surroundings) := by
  induction patience generalizing s events with
  | zero => rfl
  | succ patience ih =>
      obtain ⟨a, s', hask⟩ : ∃ a s', ex.ask (n.finalityRequest h) s = (a, s') := ⟨_, _, rfl⟩
      obtain ⟨sent, hfirst⟩ := goOn_due_of_ask (n := n) hask events
      rw [Nat.mul_succ, Function.iterate_succ_apply, Function.iterate_succ_apply, hfirst]
      simp only [awaitFinality, bind, StateT.bind, hask]
      cases judge h a with
      | some o =>
          have hover : n.goOn interval ex h ⟨s', events ++ sent, .over o⟩ = ⟨s', events ++ sent, .over o⟩ :=
            rfl
          rw [nextPhase, hover, goOn_iterate_over]
          rfl
      | none => exact ih s' _

/-- Asking a number of times at most is a beginning of the wait. -/
lemma awaitFinality_eq (patience : ℕ) : n.awaitFinality ex h patience s =
    ((n.wait interval ex h s (2 * patience)).outcome?,
      (n.wait interval ex h s (2 * patience)).surroundings) := by
  rw [wait_eq_iterate]
  exact awaitFinality_eq_iterate patience s []

/-! ### What comes of it -/

/-- Whatever a node's gateway replies, the transaction is asked for until a reply is not that it is still
pending, and after each reply that it is, one interval is slept. The first other reply is the last one, and
it alone says what comes of it: a closed connection, an unknown transaction, a status by which something
went wrong, a body that broke off or cannot be read, or the outcome. The wait is over for no other reason,
so there is no outcome as long as the transaction is pending. If the address is of no use, nothing is sent.
Asking a number of times at most is the same wait, looked at after so many rounds. -/
theorem waits_for_the_first_settling_reply (n : NodeGateway) (interval : ℕ) (ex : Exchange σ)
    (h : TransactionHash) (s : σ) :
    let r := n.finalityRequest h
    let w := n.wait interval ex h s
    let replies := ex.replies r s
    (∀ reply : HttpReply, ¬ reply.IsPending ↔ ∃! o, Settles h reply o) ∧
    (Address.isUsable r.url = true →
      (∀ k, (∀ i < k, (replies i).IsPending) →
        (w (2 * k)).phase = .due ∧ (w (2 * k)).events = pauses r interval replies k ∧
        ∀ o, Settles h (replies k) o → ∀ m, 2 * k + 1 ≤ m →
          (w m).phase = .over o ∧ (w m).events = pauses r interval replies k ++ [.sent ⟨r, replies k⟩]) ∧
      ∀ m o, (w m).phase = .over o →
        ∃ k, 2 * k + 1 ≤ m ∧ (∀ i < k, (replies i).IsPending) ∧ Settles h (replies k) o) ∧
    (Address.isUsable r.url = false → ∀ m,
      (w (m + 1)).phase = .over (.error (.http .builder)) ∧ (w (m + 1)).events = []) ∧
    ∀ patience, n.awaitFinality ex h patience s =
      ((w (2 * patience)).outcome?, (w (2 * patience)).surroundings) := by
  refine ⟨fun reply => not_isPending_iff, fun husable => ⟨fun k hpending => ?_, fun m o hover => ?_⟩,
    fun husable m => ?_, awaitFinality_eq⟩
  · rw [wait_of_pending husable hpending]
    refine ⟨rfl, rfl, fun o hsettles m hm => ?_⟩
    rw [wait_of_settles husable hpending hsettles hm]
    exact ⟨rfl, rfl⟩
  · exact exists_of_over husable hover
  · rw [wait_of_unusable husable]
    exact ⟨rfl, rfl⟩

/-- A gateway says twice that the transaction is pending, once with a body that looks like an outcome, and
then that it has succeeded. -/
theorem waits_for_the_first_settling_reply_of_two_pauses :
    let n : NodeGateway := ⟨"http://node"⟩
    let h : TransactionHash := ⟨.replicate 3⟩
    let outcome := Utf8.ofString "\x7b\"outcome\":\"success\"\x7d"
    let script : List HttpReply :=
      [.answered ⟨202, .whole []⟩, .answered ⟨202, .whole outcome⟩, .answered ⟨200, .whole outcome⟩]
    let w := n.wait 10 Exchange.scripted h script
    Address.isUsable (n.finalityRequest h).url = true ∧ (w 4).phase = .due ∧
      (w 7).phase = .over (.ok .success) ∧
      (w 7).events = [.sent ⟨n.finalityRequest h, .answered ⟨202, .whole []⟩⟩, .slept 10,
        .sent ⟨n.finalityRequest h, .answered ⟨202, .whole outcome⟩⟩, .slept 10,
        .sent ⟨n.finalityRequest h, .answered ⟨200, .whole outcome⟩⟩] ∧
      ∃ k, 2 * k + 1 ≤ 7 ∧ Settles h (Exchange.scripted.replies (n.finalityRequest h) script k)
        (.ok .success) := by
  intro n h outcome script w
  have husable : Address.isUsable (n.finalityRequest h).url = true := by decide +kernel
  have hdecode : Json.decode TransactionOutcome.ofJson outcome = .ok .success := by decide +kernel
  have hsettles : Settles h (.answered ⟨200, .whole outcome⟩) (.ok .success) := by
    refine .finalized ⟨by decide, by decide⟩ rfl ?_
    rw [HttpBody.whole, List.flatten_singleton, hdecode]
  obtain ⟨-, hwait, -, -⟩ := waits_for_the_first_settling_reply n 10 Exchange.scripted h script
  obtain ⟨hcourse, hover⟩ := hwait husable
  obtain ⟨hdue, -, hends⟩ := hcourse 2 fun i hi => by
    interval_cases i
    · exact ⟨_, rfl, rfl⟩
    · exact ⟨_, rfl, rfl⟩
  obtain ⟨hphase, hevents⟩ := hends _ hsettles 7 (by decide)
  obtain ⟨k, hk, -, hsettled⟩ := hover 7 _ hphase
  exact ⟨husable, hdue, hphase, hevents, k, hk, hsettled⟩

end NodeGateway

end ChainElection
