import Mathlib.Tactic
import ChainElection.Http.Gateway
import ChainElection.Proofs.Bytes.Hex
import ChainElection.Proofs.Client.Reader
import ChainElection.Proofs.Client.Readings
import ChainElection.Proofs.Http.Exchange

/-!
Views that are read through a node's gateway, and readings of views in general.

* `NodeGateway.invoke_of_ask` says what a simulated call comes to by what comes
  back over HTTP, `NodeGateway.Invoked.result_of_digits` that a return value may
  have its digits in either case.
* `views_are_read_alike` is the theorem: the rules by which the four views are
  read, whether a worker decodes or not, and whatever else it is used for.
-/

namespace ChainElection

namespace NodeGateway

variable {σ : Type} {ex : Exchange σ} {n : NodeGateway} {r : InvokeRequest} {s s' : σ}

/-! ### Simulated calls over HTTP -/

lemma invoke_of_error {f : HttpFault} (h : ex.ask (n.invokeRequest r) s = (.error f, s')) :
    n.invoke ex r s = (.error (.http f), s') := by
  simp only [invoke, bind, StateT.bind, Exchange.askFor_of_error h]
  rfl

/-- A call comes to what the answer holds. -/
lemma invoke_of_ask {a : HttpAnswer} (h : ex.ask (n.invokeRequest r) s = (.ok a, s')) :
    n.invoke ex r s = (match a.expect invokedOfJson with
      | .error f => .error (.http f)
      | .ok i => i.result, s') := by
  simp only [invoke, bind, StateT.bind, Exchange.askFor_of_ask h]
  cases a.expect invokedOfJson <;> rfl

/-- The digits of a return value may be in either case. -/
lemma Invoked.result_of_digits {energy : ℕ} {text : String} {bs : List UInt8}
    (h : text.toList.map Char.toLower = (Hex.text bs).toList) :
    (Invoked.success energy (some text)).result =
      .ok (.success ⟨UInt64.ofNat energy⟩ (some bs)) := by
  rw [Invoked.result, Hex.read_eq_ok_iff.mpr h]

/-- A return value that has no digits is an error of the node. -/
lemma Invoked.result_of_forall_ne (energy : ℕ) {text : String}
    (h : ∀ bs, text.toList.map Char.toLower ≠ (Hex.text bs).toList) :
    ∃ f : Hex.Fault, (Invoked.success energy (some text)).result =
      .error (.node s!"return value is not hex: {f.message}") := by
  rw [Invoked.result]
  cases hread : Hex.read text with
  | ok bs => exact absurd (Hex.read_eq_ok_iff.mp hread) (h bs)
  | error f => exact ⟨f, rfl⟩

end NodeGateway

/-! ### Views -/

/-- The four views are read by the same rules: an error of the node is passed on; a call that failed means
that the view is not available; a success without a value, or with one that nothing is written as, is
malformed; and from any other value comes what it was written for. However many readings are under way,
whoever decodes for them, and whatever else their worker has to do, a reading that ends comes to what its
answer shows when it is decoded at once, and one whose caller does not give up can be brought to its end.
While the worker has nothing else to do, a reading comes to that by itself. Through a gateway all this is
so as well: what goes wrong over HTTP is passed on, a return value may have its digits in either case, and
one that has something else is an error of the node. -/
theorem views_are_read_alike :
    (View.config.IsReading View.config? ∧ View.guardians.IsReading View.guardians? ∧
      View.tally.IsReading View.tally? ∧ View.result.IsReading View.result?) ∧
    (∀ (es : List ReadingEvent) k r, (Readings.idle.run es).readings[k]? = some r →
      (∀ result, r.phase = .ended result → r.view.narrow result = r.view.shown r.answer) ∧
      (¬ r.GivenUp (Readings.idle.run es).worker → ∃ es', (∀ i, .work (.abandon i) ∉ es') ∧
        ((Readings.idle.run (es ++ es')).result? k).map r.view.narrow =
          some (r.view.shown r.answer))) ∧
    (∀ (es : List ReadingEvent) v shared answer, (Readings.idle.run es).worker.underWay = [] →
      ((Readings.idle.run es).read v shared answer).1.map v.narrow = some (v.shown answer)) ∧
    ∀ (v : View) (σ : Type) (ex : Exchange σ) (n : NodeGateway) (c : ElectionContract) (s s' : σ),
      (∀ f, ex.ask (n.invokeRequest (c.viewRequest v)) s = (.error f, s') →
        v.shown (n.invoke ex (c.viewRequest v) s).1 = .error (.http f)) ∧
      ∀ a, ex.ask (n.invokeRequest (c.viewRequest v)) s = (.ok a, s') →
        match a.expect NodeGateway.invokedOfJson with
        | .error f => v.shown (n.invoke ex (c.viewRequest v) s).1 = .error (.http f)
        | .ok (.failure _ _) => v.shown (n.invoke ex (c.viewRequest v) s).1 = .ok none
        | .ok (.success _ none) =>
          v.shown (n.invoke ex (c.viewRequest v) s).1 =
            .error (.malformedReturnValue v.entrypoint "missing return value")
        | .ok (.success energy (some text)) =>
          (∀ bs, text.toList.map Char.toLower = (Hex.text bs).toList →
            v.shown (n.invoke ex (c.viewRequest v) s).1 =
              v.shown (.ok (.success ⟨UInt64.ofNat energy⟩ (some bs)))) ∧
          ((∀ bs, text.toList.map Char.toLower ≠ (Hex.text bs).toList) →
            ∃ f : Hex.Fault, v.shown (n.invoke ex (c.viewRequest v) s).1 =
              .error (.node s!"return value is not hex: {f.message}")) := by
  refine ⟨⟨View.isReading_shown _, View.isReading_shown _, View.isReading_shown _,
    View.isReading_shown _⟩, ?_, ?_, ?_⟩
  · intro es k r hr
    have hs := Readings.Sound.idle.run es
    refine ⟨fun result hphase => ?_, fun hkept => ?_⟩
    · rw [hs.result hr hphase]
      rfl
    · obtain ⟨es', hes', hend⟩ := hs.ends hr hkept
      refine ⟨es', hes', ?_⟩
      rw [Readings.run_append, hend]
      rfl
  · intro es v shared answer hquiet
    rw [(Readings.Sound.idle.run es).read_eq hquiet]
    rfl
  · intro v σ ex n c s s'
    refine ⟨fun f hask => ?_, fun a hask => ?_⟩
    · rw [NodeGateway.invoke_of_error hask]
      rfl
    · rw [NodeGateway.invoke_of_ask hask]
      cases a.expect NodeGateway.invokedOfJson with
      | error f => rfl
      | ok i =>
          cases i with
          | failure energy reason => rfl
          | success energy value =>
              cases value with
              | none => rfl
              | some text =>
                  refine ⟨fun bs h => ?_, fun h => ?_⟩
                  · simp only [NodeGateway.Invoked.result_of_digits h]
                  · obtain ⟨f, hf⟩ := NodeGateway.Invoked.result_of_forall_ne energy h
                    simp only [hf]
                    exact ⟨f, rfl⟩

/-- A posted tally, with digits in both cases, and a reading of it while the worker has another job. -/
theorem views_are_read_alike_of_posted_tally :
    let c : ElectionContract := ⟨⟨1, 0⟩, "election"⟩
    let n : NodeGateway := ⟨"http://node"⟩
    let body := "\x7b\"tag\":\"success\",\"usedEnergy\":5,\"returnValue\":\"0102000000AbcD\"\x7d"
    let answer : Except ClientError InvokeResult := .ok (.success ⟨5⟩ (some [1, 2, 0, 0, 0, 0xab, 0xcd]))
    let es : List ReadingEvent := [.start .tally true answer, .work (.reserve ⟨.result, [1]⟩), .answered 0]
    View.tally? (n.invoke Exchange.scripted (c.viewRequest .tally)
        [.answered ⟨200, .whole (Utf8.ofString body)⟩]).1 = .ok (some (some [0xab, 0xcd])) ∧
      ∃ es', ((Readings.idle.run (es ++ es')).result? 0).map View.tally.narrow =
        some (.ok (some (some [0xab, 0xcd]))) := by
  intro c n body answer es
  obtain ⟨⟨-, -, htally, -⟩, hreadings, -, hhttp⟩ := views_are_read_alike
  have hvalue : View.tally.shown answer = .ok (some (some [0xab, 0xcd])) := by
    refine (htally.value _ _ _).mpr ⟨fun v hv => ?_, rfl⟩
    cases hv
    exact (by decide : ([0xab, 0xcd] : List UInt8).length < UInt32.size)
  constructor
  · have hask : Exchange.scripted.ask (n.invokeRequest (c.viewRequest .tally))
        [.answered ⟨200, .whole (Utf8.ofString body)⟩] =
          (.ok ⟨200, .whole (Utf8.ofString body)⟩, []) := by
      have husable : Address.isUsable (n.invokeRequest (c.viewRequest .tally)).url = true := by decide +kernel
      rw [Exchange.ask, husable]
      rfl
    have hread : HttpAnswer.expect ⟨200, .whole (Utf8.ofString body)⟩ NodeGateway.invokedOfJson =
        .ok (.success 5 (some "0102000000AbcD")) := by decide +kernel
    have h := (hhttp .tally _ Exchange.scripted n c _ []).2 _ hask
    rw [hread] at h
    exact (h.1 [1, 2, 0, 0, 0, 0xab, 0xcd] (by decide +kernel)).trans hvalue
  · obtain ⟨es', -, hend⟩ := (hreadings es 0 _ rfl).2 (by
      rintro ⟨id, d, hphase, hd, habandoned⟩
      cases hphase
      cases hd
      cases habandoned)
    exact ⟨es', hend.trans (congrArg some hvalue)⟩

end ChainElection
