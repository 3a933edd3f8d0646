import Mathlib.Tactic
import ChainElection.Client.Readings
import ChainElection.Proofs.Client.DecodeWorker

/-!
Readings of views that share a worker, however they are interleaved.

* `Readings.Sound` is the invariant: a reading that waits for the worker has a
  call there for the bytes of its own answer, and a reading that has ended has
  come to what decoding at once would have come to.
* `Readings.Sound.result` reads this off for what has ended. `Readings.Sound.ends`:
  a reading whose caller has not given up can always be brought to its end.
* `Readings.Sound.read_eq`: with a worker that has nothing to do it ends by itself.
-/

namespace ChainElection

/-! ### What an answer means -/

namespace View

variable {v : View} {answer : Except ClientError InvokeResult}

lemma interpret_of_error {e : ClientError} (h : v.returned answer = .error e) :
    v.interpret answer = .error e := by rw [interpret, h]

lemma interpret_of_none (h : v.returned answer = .ok none) : v.interpret answer = .ok none := by
  rw [interpret, h]

lemma interpret_of_some {bs : List UInt8} (h : v.returned answer = .ok (some bs)) :
    v.interpret answer = (v.decoded (v.decode bs)).map some := by rw [interpret, h]

end View

/-! ### The invariant -/

namespace Reading

/-- How far a reading can be, and what is known of it then. -/
inductive Fits (w : DecodeWorker) : Reading → Prop where
  | asking (v : View) (shared : Bool) (answer : Except ClientError InvokeResult) :
      Fits w ⟨v, shared, answer, .asking⟩
  | decoding {v : View} {shared : Bool} {answer : Except ClientError InvokeResult} {id : ℕ}
      {bs : List UInt8} {c : DecodeCall} (hanswer : v.returned answer = .ok (some bs))
      (hc : w.calls.get? id = some c) (hjob : c.job = ⟨v, bs⟩) :
      Fits w ⟨v, shared, answer, .decoding id⟩
  | ended (v : View) (shared : Bool) (answer : Except ClientError InvokeResult) :
      Fits w ⟨v, shared, answer, .ended (v.interpret answer)⟩

/-- The caller has stopped waiting for the worker. -/
def GivenUp (w : DecodeWorker) (r : Reading) : Prop :=
  ∃ id c, r.phase = .decoding id ∧ w.calls.get? id = some c ∧ c.phase = .abandoned

/-- What is known of a reading stays true whatever happens to the worker. -/
lemma Fits.step {r : Reading} {w w' : DecodeWorker} {e : DecodeEvent}
    {l : DecodeLedger} (h : r.Fits w) (hw : DecodeWorker.Sound l w) (hstep : w.step e = some w') : r.Fits w' := by
  cases h with
  | asking v shared answer => exact .asking v shared answer
  | decoding hanswer hc hjob =>
      obtain ⟨c', hc', hjob', -⟩ := hw.call_step hstep hc
      exact .decoding hanswer hc' (hjob'.trans hjob)
  | ended v shared answer => exact .ended v shared answer

end Reading

namespace Readings

variable {rs rs' : Readings} {r : Reading} {k id : ℕ} {l : DecodeLedger} {w w' : DecodeWorker}
  {phase : ReadingPhase} {e : ReadingEvent}

/-- The invariant: the worker is where it can get to, and so is every reading. -/
structure Sound (rs : Readings) : Prop where
  worker : ∃ l, DecodeWorker.Sound l rs.worker
  reading : ∀ {k : ℕ} {r : Reading}, rs.readings[k]? = some r → r.Fits rs.worker

lemma Sound.idle : Sound idle where
  worker := ⟨_, DecodeWorker.Sound.idle⟩
  reading h := by cases h

lemma Sound.work {e : DecodeEvent} (hs : Sound rs) (h : rs.worker.step e = some w') :
    Sound { rs with worker := w' } where
  worker := by
    obtain ⟨l, hw⟩ := hs.worker
    exact ⟨_, hw.step h⟩
  reading hr := by
    obtain ⟨l, hw⟩ := hs.worker
    exact (hs.reading hr).step hw h

lemma Sound.goTo (hs : Sound rs) (h : ({ r with phase := phase } : Reading).Fits rs.worker) :
    Sound (rs.goTo k r phase) where
  worker := hs.worker
  reading := by
    intro j q hq
    rw [Readings.goTo, List.getElem?_set] at hq
    split_ifs at hq
    · cases hq
      exact h
    · exact hs.reading hq

lemma get?_goTo (rs : Readings) (hr : rs.readings[k]? = some r) (phase : ReadingPhase) :
    (rs.goTo k r phase).readings[k]? = some { r with phase := phase } := by
  rw [goTo, List.getElem?_set_self (List.getElem?_eq_some_iff.mp hr).1]

/-! ### What happens to a reading -/

/-- What can follow from an answer: the reading ends, or there is a job for the worker. -/
lemma afterAnswer_cases (rs : Readings) (k : ℕ) (r : Reading) :
    rs.afterAnswer k r = rs.goTo k r (.ended (r.view.interpret r.answer)) ∨
    ∃ bs, r.view.returned r.answer = .ok (some bs) ∧
      rs.afterAnswer k r =
        { rs with worker := rs.worker.run [.reserve ⟨r.view, bs⟩] }.goTo k r
          (.decoding rs.worker.nextId) := by
  rw [afterAnswer]
  split
  · rename_i e h
    rw [View.interpret_of_error h]
    exact .inl rfl
  · rename_i h
    rw [View.interpret_of_none h]
    exact .inl rfl
  · rename_i bs h
    rw [View.interpret_of_some h]
    split
    · exact .inr ⟨bs, h, rfl⟩
    · exact .inl rfl

/-- The call that a job for the worker is. -/
lemma get?_reserve (w : DecodeWorker) (job : DecodeJob) :
    (w.run [.reserve job]).calls.get? w.nextId = some ⟨job, .reserved, 0⟩ := Table.get?_set_self ..

lemma Sound.afterAnswer (hs : Sound rs) (r : Reading) : Sound (rs.afterAnswer k r) := by
  rcases afterAnswer_cases rs k r with h | ⟨bs, hanswer, h⟩
  · rw [h]
    exact hs.goTo (.ended ..)
  · rw [h]
    have hreserved : Sound { rs with worker := rs.worker.run [.reserve ⟨r.view, bs⟩] } :=
      hs.work (e := .reserve ⟨r.view, bs⟩) rfl
    exact hreserved.goTo (.decoding hanswer (get?_reserve ..) rfl)

/-- An output that a reading takes is that of its own bytes. -/
lemma Sound.output (hs : Sound rs) {v : View} {shared : Bool} {answer : Except ClientError InvokeResult}
    {o : DecodeOutput} (hr : rs.readings[k]? = some ⟨v, shared, answer, .decoding id⟩)
    (ho : rs.worker.output? id = some o) : (v.decoded o).map some = v.interpret answer := by
  obtain ⟨l, hw⟩ := hs.worker
  cases hs.reading hr with
  | @decoding _ _ _ _ bs c hanswer hc hjob =>
      have hown := hw.output ho
      rw [hw.job hc, Option.map_some, hjob, Option.some.injEq] at hown
      rw [View.interpret_of_some hanswer, ← hown]
      rfl

/-- Every step keeps the invariant. -/
theorem Sound.step (hs : Sound rs) (h : rs.step e = some rs') : Sound rs' := by
  cases e with
  | start v shared answer =>
      cases h
      refine ⟨hs.worker, fun {j q} hq => ?_⟩
      rw [List.getElem?_append] at hq
      split_ifs at hq
      · exact hs.reading hq
      · rw [List.getElem?_singleton] at hq
        split_ifs at hq
        cases hq
        exact .asking v shared answer
  | answered k =>
      rw [Readings.step] at h
      split at h
      · cases h
        exact hs.afterAnswer _
      · cases h
  | collect k =>
      rw [Readings.step] at h
      split at h
      · rename_i v shared answer id hr
        obtain ⟨o, ho, rfl⟩ := Option.map_eq_some_iff.mp h
        rw [hs.output hr ho]
        exact hs.goTo (.ended ..)
      · cases h
  | work e =>
      obtain ⟨w, hw, rfl⟩ := Option.map_eq_some_iff.mp h
      exact hs.work hw

theorem Sound.run (hs : Sound rs) (es : List ReadingEvent) : Sound (rs.run es) := by
  induction es generalizing rs with
  | nil => exact hs
  | cons e es ih =>
      rw [Readings.run, List.foldl_cons]
      cases h : rs.step e with
      | none => exact ih hs
      | some rs' => exact ih (hs.step h)

/-- What a reading has come to is what decoding at once comes to. -/
lemma Sound.result (hs : Sound rs) {result : Except ClientError (Option Viewed)}
    (hr : rs.readings[k]? = some r) (hphase : r.phase = .ended result) :
    result = r.view.interpret r.answer := by
  cases hs.reading hr with
  | asking => cases hphase
  | decoding => cases hphase
  | ended => cases hphase; rfl

/-! ### Coming to an end -/

lemma run_append (rs : Readings) (es es' : List ReadingEvent) :
    rs.run (es ++ es') = (rs.run es).run es' := List.foldl_append

lemma run_work (rs : Readings) (es : List DecodeEvent) :
    rs.run (es.map .work) = { rs with worker := rs.worker.run es } := by
  induction es generalizing rs with
  | nil => rfl
  | cons e es ih =>
      rw [List.map_cons, run, List.foldl_cons, DecodeWorker.run_cons, step]
      cases h : rs.worker.step e with
      | none => exact ih rs
      | some w => exact ih { rs with worker := w }

/-- What is left to be done for a call, if the worker is to be through after so many rounds. -/
def restOf (id n : ℕ) : List DecodeEvent :=
  [.register id, .send id] ++ (List.replicate n [DecodeEvent.take, .decode, .dispatch]).flatten

lemma output_restOf (hw : DecodeWorker.Sound l w) {c : DecodeCall} (hc : w.calls.get? id = some c)
    (hphase : c.phase ≠ .abandoned) {n : ℕ}
    (hn : (w.run [.register id, .send id]).underWay.length ≤ n) :
    (w.run (restOf id n)).output? id = some c.job.output := by
  obtain ⟨c', hc', hjob, hexpects⟩ := DecodeWorker.exists_handedIn hc hphase
  rw [restOf, DecodeWorker.run_append, ← hjob]
  exact (hw.run _).output_of_workOff hc' hexpects hn

lemma result?_of_ended {result : Except ClientError (Option Viewed)}
    (hr : rs.readings[k]? = some r) (hphase : r.phase = .ended result) : rs.result? k = some result := by
  obtain ⟨v, shared, answer, phase⟩ := r
  cases hphase
  rw [result?, hr]

/-- A reading that waits for the worker ends when this is through. -/
lemma Sound.result?_decoding (hs : Sound rs) (hr : rs.readings[k]? = some r)
    (hphase : r.phase = .decoding id) (hkept : ¬ r.GivenUp rs.worker) {n : ℕ}
    (hn : (rs.worker.run [.register id, .send id]).underWay.length ≤ n) :
    (rs.run ((restOf id n).map .work ++ [.collect k])).result? k =
      some (r.view.interpret r.answer) := by
  have hrest := hs.run ((restOf id n).map .work)
  rw [run_append, run_work] at *
  obtain ⟨l, hw⟩ := hs.worker
  cases hs.reading hr with
  | asking => cases hphase
  | ended => cases hphase
  | @decoding v shared answer id' bs c hanswer hc hjob =>
      cases hphase
      have ho := output_restOf hw hc (fun h => hkept ⟨id, c, rfl, hc, h⟩) hn
      have hcollect : Readings.step { rs with worker := rs.worker.run (restOf id n) } (.collect k) =
          some (Readings.goTo { rs with worker := rs.worker.run (restOf id n) } k
            ⟨v, shared, answer, .decoding id⟩ (.ended (v.interpret answer))) := by
        rw [Readings.step]
        simp only [hr, ho, Option.map_some, hrest.output hr ho]
      rw [Readings.run, List.foldl_cons, hcollect]
      exact result?_of_ended (get?_goTo _ hr _) rfl

/-- What has ended is not changed by the worker, and takes no output any more. -/
lemma result?_run_of_ended {result : Except ClientError (Option Viewed)}
    (hr : rs.readings[k]? = some r) (hphase : r.phase = .ended result) (es : List DecodeEvent) :
    (rs.run (es.map .work ++ [.collect k])).result? k = some result := by
  obtain ⟨v, shared, answer, phase⟩ := r
  cases hphase
  rw [run_append, run_work, run, List.foldl_cons, step]
  simp only [hr]
  exact result?_of_ended hr rfl

/-- The line after a job was handed in. -/
lemma underWay_handIn (w : DecodeWorker) (job : DecodeJob) :
    ((w.run [.reserve job]).run [.register w.nextId, .send w.nextId]).underWay =
      w.underWay ++ [(w.nextId, job.output)] := by
  simp [DecodeWorker.run, DecodeWorker.step, DecodeWorker.goTo, DecodeWorker.underWay]

/-- A reading that has its answer ends as soon as the worker is through. -/
lemma Sound.result?_answered (hs : Sound rs) (hr : rs.readings[k]? = some r) {n : ℕ}
    (hn : rs.worker.underWay.length < n) :
    ((rs.afterAnswer k r).run ((restOf rs.worker.nextId n).map .work ++ [.collect k])).result? k =
      some (r.view.interpret r.answer) := by
  have hs' := hs.afterAnswer (k := k) r
  rcases afterAnswer_cases rs k r with h | ⟨bs, -, h⟩
  · rw [h]
    exact result?_run_of_ended (get?_goTo _ hr _) rfl _
  · rw [h] at hs' ⊢
    have hr' := get?_goTo { rs with worker := rs.worker.run [.reserve ⟨r.view, bs⟩] } hr
      (.decoding rs.worker.nextId)
    have hkept : ¬ Reading.GivenUp (rs.worker.run [.reserve ⟨r.view, bs⟩])
        { r with phase := .decoding rs.worker.nextId } := by
      rintro ⟨i, c, hphase, hc, habandoned⟩
      cases hphase
      cases (get?_reserve rs.worker ⟨r.view, bs⟩).symm.trans hc
      cases habandoned
    have hline : ((rs.worker.run [.reserve ⟨r.view, bs⟩]).run
        [.register rs.worker.nextId, .send rs.worker.nextId]).underWay.length ≤ n := by
      rw [underWay_handIn, List.length_append, List.length_singleton]
      exact hn
    have hend := hs'.result?_decoding hr' rfl hkept hline
    exact hend

/-- A reading whose caller does not give up can be brought to its end, without anyone giving up. -/
theorem Sound.ends (hs : Sound rs) (hr : rs.readings[k]? = some r) (hkept : ¬ r.GivenUp rs.worker) :
    ∃ es, (∀ i, .work (.abandon i) ∉ es) ∧
      (rs.run es).result? k = some (r.view.interpret r.answer) := by
  have hrest : ∀ i n, ∀ j, .work (.abandon j) ∉ (restOf i n).map ReadingEvent.work ++ [.collect k] := by
    simp [restOf]
  obtain ⟨v, shared, answer, phase⟩ := r
  cases phase with
  | asking =>
      have hend := hs.result?_answered hr (Nat.lt_succ_self _)
      have hanswered : rs.run [.answered k] = rs.afterAnswer k ⟨v, shared, answer, .asking⟩ := by
        rw [Readings.run, List.foldl_cons, List.foldl_nil, Readings.step, hr]
        rfl
      rw [← hanswered, ← run_append] at hend
      exact ⟨_, fun i => by simpa using hrest _ _ i, hend⟩
  | decoding id => exact ⟨_, hrest _ _, hs.result?_decoding hr rfl hkept le_rfl⟩
  | ended result =>
      refine ⟨[], fun _ => List.not_mem_nil, ?_⟩
      rw [← hs.result hr rfl]
      exact result?_of_ended hr rfl

/-- With a worker that has nothing to do a reading comes to what its answer means, whether the worker
decodes for it or not. -/
theorem Sound.read_eq (hs : Sound rs) (hquiet : rs.worker.underWay = []) (v : View) (shared : Bool)
    (answer : Except ClientError InvokeResult) :
    (rs.read v shared answer).1 = some (v.interpret answer) := by
  have hstarted : Sound { rs with readings := rs.readings ++ [⟨v, shared, answer, .asking⟩] } :=
    hs.step (e := .start v shared answer) rfl
  have hr : (rs.readings ++ [⟨v, shared, answer, .asking⟩])[rs.readings.length]? =
      some (⟨v, shared, answer, .asking⟩ : Reading) := List.getElem?_concat_length
  have hend := hstarted.result?_answered hr (n := 1) (by rw [hquiet]; exact Nat.one_pos)
  rw [← hend, read, Readings.run, List.foldl_cons, List.foldl_cons]
  simp only [Readings.step, hr, Option.getD_some]
  rfl

end Readings

end ChainElection
