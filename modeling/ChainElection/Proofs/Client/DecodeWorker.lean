import Mathlib.Tactic
import ChainElection.Client.DecodeWorker

/-!
Who gets what from the decode worker, however its steps are interleaved.

Between the queues and the decoder a job is in one line from the moment it is
sent until its response is dispatched, and it never overtakes another.

* `DecodeWorker.underWay` is that line. Sending appends to it, dispatching takes
  its head, and nothing else changes it.
* `DecodeStage` says how far a number has come, `DecodeWorker.At` where it is
  found then, and `DecodeStage.Fits` how far its call can be.
* `DecodeLedger` keeps book of a run. `DecodeWorker.Sound` is the invariant: every
  number is at the stage that the book says, and its call is as far.
* `Sound.output_of_workOff`: whoever expects an output has it as soon as the line
  is worked off.
* `calls_get_their_own_outputs` is what this means for callers and for the
  numbers that are registered.
-/

namespace ChainElection

/-- What has happened in a run: the jobs that calls were made for, the numbers that were registered, and
those whose responses were dispatched, each in order. -/
structure DecodeLedger where
  jobs : List DecodeJob
  registered : List ℕ
  dispatched : List ℕ

/-- How far a number has come: it is not registered; it is; its job is sent and comes to this output; its
response has been dispatched. -/
inductive DecodeStage where
  | unheard
  | registered
  | underWay (o : DecodeOutput)
  | dispatched

/-- How far a call is when its number has come so far. -/
inductive DecodeStage.Fits : Option DecodeCall → DecodeStage → Prop where
  | unissued : Fits none .unheard
  | reserved (job : DecodeJob) : Fits (some ⟨job, .reserved, 0⟩) .unheard
  | registered (job : DecodeJob) : Fits (some ⟨job, .registered, 0⟩) .registered
  | waiting (job : DecodeJob) : Fits (some ⟨job, .waiting, 0⟩) (.underWay job.output)
  | abandoned (job : DecodeJob) : Fits (some ⟨job, .abandoned, 0⟩) (.underWay job.output)
  | ignored (job : DecodeJob) : Fits (some ⟨job, .abandoned, 0⟩) .dispatched
  | completed (job : DecodeJob) : Fits (some ⟨job, .completed job.output, 1⟩) .dispatched

/-- The caller waits for its output, or has got it. -/
def CallPhase.Expects : CallPhase → Prop
  | .waiting | .completed _ => True
  | _ => False

namespace DecodeWorker

variable {w w' : DecodeWorker} {e : DecodeEvent} {id k n : ℕ} {job : DecodeJob} {o : DecodeOutput}
  {c : DecodeCall} {l l' : DecodeLedger} {st : DecodeStage}

/-! ### Steps -/

/-- What a step can be. -/
inductive Steps (w : DecodeWorker) : DecodeEvent → DecodeWorker → Prop where
  | reserve (job : DecodeJob) : Steps w (.reserve job)
      { w with nextId := w.nextId + 1, calls := w.calls.set w.nextId ⟨job, .reserved, 0⟩ }
  | register {id n : ℕ} {job : DecodeJob} (hc : w.calls.get? id = some ⟨job, .reserved, n⟩) :
      Steps w (.register id)
        { w with calls := w.calls.set id ⟨job, .registered, n⟩, pending := id :: w.pending }
  | send {id n : ℕ} {job : DecodeJob} (hc : w.calls.get? id = some ⟨job, .registered, n⟩) :
      Steps w (.send id)
        { w with calls := w.calls.set id ⟨job, .waiting, n⟩, requests := w.requests ++ [(id, job)] }
  | abandon {id n : ℕ} {job : DecodeJob} (hc : w.calls.get? id = some ⟨job, .waiting, n⟩) :
      Steps w (.abandon id) { w with calls := w.calls.set id ⟨job, .abandoned, n⟩ }
  | take {r : ℕ × DecodeJob} {rs : List (ℕ × DecodeJob)} (hcurrent : w.current = none)
      (hrequests : w.requests = r :: rs) :
      Steps w .take { w with current := some r, requests := rs }
  | decode {id : ℕ} {job : DecodeJob} (hcurrent : w.current = some (id, job)) :
      Steps w .decode { w with current := none, responses := w.responses ++ [(id, job.output)] }
  | deliver {id n : ℕ} {job : DecodeJob} {o : DecodeOutput} {rs : List (ℕ × DecodeOutput)}
      (hresponses : w.responses = (id, o) :: rs) (hpending : id ∈ w.pending)
      (hc : w.calls.get? id = some ⟨job, .waiting, n⟩) :
      Steps w .dispatch
        { w with
          responses := rs
          pending := w.pending.filter (· ≠ id)
          calls := w.calls.set id ⟨job, .completed o, n + 1⟩ }
  | drop {id : ℕ} {o : DecodeOutput} {rs : List (ℕ × DecodeOutput)}
      (hresponses : w.responses = (id, o) :: rs)
      (hquiet : id ∈ w.pending → ∀ job n, w.calls.get? id ≠ some ⟨job, .waiting, n⟩) :
      Steps w .dispatch { w with responses := rs, pending := w.pending.filter (· ≠ id) }

lemma dispatch_cases (h : w.step .dispatch = some w') : Steps w .dispatch w' := by
  rw [step] at h
  split at h
  · rename_i id o rs hresponses
    cases h
    split
    · rename_i hpending
      have hmem : id ∈ w.pending := List.contains_iff_mem.mp hpending
      rw [deliver]
      split
      · rename_i hnone
        exact .drop hresponses fun _ job n hc => by cases hnone.symm.trans hc
      · rename_i c hc
        split
        · rename_i hphase
          obtain ⟨job, phase, n⟩ := c
          cases hphase
          exact .deliver hresponses hmem hc
        · rename_i hphase
          exact .drop hresponses fun _ job n hc' => hphase (by cases hc.symm.trans hc'; rfl)
    · rename_i hpending
      have hnot : id ∉ w.pending := fun hmem => hpending (List.contains_iff_mem.mpr hmem)
      have hfilter : w.pending.filter (· ≠ id) = w.pending := by
        refine List.filter_eq_self.mpr fun k hk => decide_eq_true fun hki => hnot (hki ▸ hk)
      have hdrop := Steps.drop (w := w) hresponses fun hmem => absurd hmem hnot
      rwa [hfilter] at hdrop
  · cases h

/-- There are no other steps. -/
lemma step_cases (h : w.step e = some w') : Steps w e w' := by
  cases e with
  | reserve job =>
      cases h
      exact .reserve job
  | register id =>
      rw [step] at h
      split at h
      · rename_i hc
        cases h
        exact .register hc
      · cases h
  | send id =>
      rw [step] at h
      split at h
      · rename_i hc
        cases h
        exact .send hc
      · cases h
  | abandon id =>
      rw [step] at h
      split at h
      · rename_i hc
        cases h
        exact .abandon hc
      · cases h
  | take =>
      rw [step] at h
      split at h
      · rename_i hcurrent hrequests
        cases h
        exact .take hcurrent hrequests
      · cases h
  | decode =>
      rw [step] at h
      split at h
      · rename_i hcurrent
        cases h
        exact .decode hcurrent
      · cases h
  | dispatch => exact dispatch_cases h

/-! ### The line -/

/-- The numbers whose jobs are sent and whose responses are not dispatched yet, each with the output that
its job comes to, in the order in which they will be dispatched. -/
def underWay (w : DecodeWorker) : List (ℕ × DecodeOutput) :=
  w.responses ++ (w.current.toList ++ w.requests).map fun r => (r.1, r.2.output)

lemma underWay_eq_nil_iff : w.underWay = [] ↔ w.requests = [] ∧ w.current = none ∧ w.responses = [] := by
  rw [underWay, List.append_eq_nil_iff, List.map_eq_nil_iff, List.append_eq_nil_iff,
    Option.toList_eq_nil_iff]
  exact ⟨fun h => ⟨h.2.2, h.2.1, h.1⟩, fun h => ⟨h.2.2, h.2.1, h.1⟩⟩

lemma underWay_send (w : DecodeWorker) (calls : Table ℕ DecodeCall) (id : ℕ) (job : DecodeJob) :
    ({ w with calls := calls, requests := w.requests ++ [(id, job)] } : DecodeWorker).underWay =
      w.underWay ++ [(id, job.output)] := by
  simp only [underWay, List.map_append, List.map_cons, List.map_nil, List.append_assoc]

lemma underWay_take {r : ℕ × DecodeJob} {rs : List (ℕ × DecodeJob)} (hcurrent : w.current = none)
    (hrequests : w.requests = r :: rs) :
    ({ w with current := some r, requests := rs } : DecodeWorker).underWay = w.underWay := by
  simp only [underWay, hcurrent, hrequests, Option.toList_some, Option.toList_none, List.nil_append,
    List.singleton_append]

lemma underWay_decode (hcurrent : w.current = some (id, job)) :
    ({ w with current := none, responses := w.responses ++ [(id, job.output)] } :
      DecodeWorker).underWay = w.underWay := by
  simp only [underWay, hcurrent, Option.toList_some, Option.toList_none, List.nil_append,
    List.map_cons, List.append_assoc, List.singleton_append]

lemma underWay_dispatch {rs : List (ℕ × DecodeOutput)} (hresponses : w.responses = (id, o) :: rs)
    (pending : List ℕ) (calls : Table ℕ DecodeCall) :
    w.underWay = (id, o) ::
      ({ w with responses := rs, pending := pending, calls := calls } : DecodeWorker).underWay := by
  simp only [underWay, hresponses, List.cons_append]

/-! ### The book -/

/-- Notes a step that the worker takes. -/
def note (w : DecodeWorker) (l : DecodeLedger) : DecodeEvent → DecodeLedger
  | .reserve job => { l with jobs := l.jobs ++ [job] }
  | .register id => { l with registered := l.registered ++ [id] }
  | .dispatch => { l with dispatched := l.dispatched ++ (w.responses.head?.map Prod.fst).toList }
  | _ => l

/-- The book after a run. -/
def ledger (w : DecodeWorker) (l : DecodeLedger) : List DecodeEvent → DecodeLedger
  | [] => l
  | e :: r =>
    match w.step e with
    | none => w.ledger l r
    | some w' => w'.ledger (w.note l e) r

/-- The book that is kept of a run from the beginning. -/
def historyOf (es : List DecodeEvent) : DecodeLedger := idle.ledger ⟨[], [], []⟩ es

/-- Where a number is found that has come so far. -/
structure At (l : DecodeLedger) (w : DecodeWorker) (id : ℕ) (st : DecodeStage) : Prop where
  registered : id ∈ l.registered ↔ st ≠ .unheard
  dispatched : id ∈ l.dispatched ↔ st = .dispatched
  pending : id ∈ w.pending ↔ st ≠ .unheard ∧ st ≠ .dispatched
  underWay : ∀ o, (id, o) ∈ w.underWay ↔ st = .underWay o

/-- The invariant: every number is where it belongs, its call is as far, and nothing occurs twice. -/
structure Sound (l : DecodeLedger) (w : DecodeWorker) : Prop where
  nextId : w.nextId = l.jobs.length
  job : ∀ {id c}, w.calls.get? id = some c → l.jobs[id]? = some c.job
  pending : w.pending.Nodup
  underWay : (w.underWay.map Prod.fst).Nodup
  registered : l.registered.Nodup
  dispatched : l.dispatched.Nodup
  stage : ∀ id, ∃ st, DecodeStage.Fits (w.calls.get? id) st ∧ At l w id st

lemma Sound.idle : Sound ⟨[], [], []⟩ idle where
  nextId := rfl
  job := nofun
  pending := List.nodup_nil
  underWay := List.nodup_nil
  registered := List.nodup_nil
  dispatched := List.nodup_nil
  stage := fun _ => ⟨.unheard, .unissued, by simp, by simp, by simp [DecodeWorker.idle],
    by simp [DecodeWorker.idle, DecodeWorker.underWay]⟩

/-! ### What a step keeps -/

/-- A number stays where it is if nothing happens to it. -/
lemma At.of_iff (h : At l w k st) (hregistered : k ∈ l'.registered ↔ k ∈ l.registered)
    (hdispatched : k ∈ l'.dispatched ↔ k ∈ l.dispatched) (hpending : k ∈ w'.pending ↔ k ∈ w.pending)
    (hunderWay : ∀ o, (k, o) ∈ w'.underWay ↔ (k, o) ∈ w.underWay) : At l' w' k st where
  registered := hregistered.trans h.registered
  dispatched := hdispatched.trans h.dispatched
  pending := hpending.trans h.pending
  underWay := fun o => (hunderWay o).trans (h.underWay o)

lemma Sound.job_set (hw : Sound l w) (hc : w.calls.get? id = some c) {c' d : DecodeCall}
    (hd : (w.calls.set id c').get? k = some d) (hjob : c'.job = c.job) :
    l.jobs[k]? = some d.job := by
  rw [Table.get?_set] at hd
  split at hd
  · rename_i hk
    cases hd
    rw [← hk, hjob]
    exact hw.job hc
  · exact hw.job hd

/-- A step moves one number on and leaves the others where they are. -/
lemma Sound.stage_set (hw : Sound l w) {c' : DecodeCall} (hcalls : w'.calls = w.calls.set id c')
    (hfits : DecodeStage.Fits (some c') st) (hat : At l' w' id st)
    (hothers : ∀ {k st}, k ≠ id → At l w k st → At l' w' k st) (k : ℕ) :
    ∃ st, DecodeStage.Fits (w'.calls.get? k) st ∧ At l' w' k st := by
  rw [hcalls, Table.get?_set]
  split
  · rename_i hk
    exact ⟨st, hfits, hk ▸ hat⟩
  · rename_i hk
    obtain ⟨st', hfits', hat'⟩ := hw.stage k
    exact ⟨st', hfits', hothers (Ne.symm hk) hat'⟩

/-- A number that has not been given out yet has no call. -/
lemma Sound.get?_nextId (hw : Sound l w) : w.calls.get? w.nextId = none := by
  by_contra hsome
  obtain ⟨c, hc⟩ := Option.ne_none_iff_exists'.mp hsome
  have hjob := hw.job hc
  rw [hw.nextId, List.getElem?_eq_none le_rfl] at hjob
  cases hjob

lemma Sound.reserve (hw : Sound l w) (job : DecodeJob) : Sound { l with jobs := l.jobs ++ [job] }
    { w with nextId := w.nextId + 1, calls := w.calls.set w.nextId ⟨job, .reserved, 0⟩ } where
  nextId := by rw [List.length_append, hw.nextId, List.length_singleton]
  job := by
    intro k d hd
    rw [Table.get?_set] at hd
    split at hd
    · rename_i hk
      cases hd
      rw [← hk, hw.nextId, List.getElem?_concat_length]
    · have hjob := hw.job hd
      rwa [List.getElem?_append_left (List.getElem?_eq_some_iff.mp hjob).1]
  pending := hw.pending
  underWay := hw.underWay
  registered := hw.registered
  dispatched := hw.dispatched
  stage := by
    obtain ⟨st, hfits, hat⟩ := hw.stage w.nextId
    rw [hw.get?_nextId] at hfits
    cases hfits
    refine hw.stage_set rfl (.reserved job) ?_ fun _ h => ?_
    · exact hat.of_iff Iff.rfl Iff.rfl Iff.rfl fun _ => Iff.rfl
    · exact h.of_iff Iff.rfl Iff.rfl Iff.rfl fun _ => Iff.rfl

lemma Sound.register (hw : Sound l w) (hc : w.calls.get? id = some ⟨job, .reserved, n⟩) :
    Sound { l with registered := l.registered ++ [id] }
      { w with calls := w.calls.set id ⟨job, .registered, n⟩, pending := id :: w.pending } := by
  obtain ⟨st, hfits, hat⟩ := hw.stage id
  rw [hc] at hfits
  cases hfits
  have hnew : id ∉ l.registered := by simp [hat.registered]
  refine ⟨hw.nextId, fun hd => hw.job_set hc hd rfl,
    List.nodup_cons.mpr ⟨by simp [hat.pending], hw.pending⟩, hw.underWay, ?_, hw.dispatched,
    hw.stage_set rfl (.registered job) ?_ fun hk h => ?_⟩
  · rw [← List.concat_eq_append]
    exact hw.registered.concat hnew
  · exact ⟨by simp, by simp [hat.dispatched], by simp, fun o => (hat.underWay o).trans (by simp)⟩
  · exact h.of_iff (by simp [hk]) Iff.rfl (by simp [hk]) fun _ => Iff.rfl

lemma Sound.send (hw : Sound l w) (hc : w.calls.get? id = some ⟨job, .registered, n⟩) :
    Sound l { w with
      calls := w.calls.set id ⟨job, .waiting, n⟩
      requests := w.requests ++ [(id, job)] } := by
  obtain ⟨st, hfits, hat⟩ := hw.stage id
  rw [hc] at hfits
  cases hfits
  have hnew : id ∉ w.underWay.map Prod.fst := by
    rw [List.mem_map]
    rintro ⟨⟨k, o⟩, hmem, rfl⟩
    cases (hat.underWay o).mp hmem
  refine ⟨hw.nextId, fun hd => hw.job_set hc hd rfl, hw.pending, ?_, hw.registered, hw.dispatched,
    hw.stage_set rfl (.waiting job) ?_ fun hk h => ?_⟩
  · rw [underWay_send, List.map_append, List.map_singleton, ← List.concat_eq_append]
    exact hw.underWay.concat hnew
  · refine ⟨hat.registered.trans (by simp), hat.dispatched.trans (by simp),
      hat.pending.trans (by simp), fun o => ?_⟩
    rw [underWay_send]
    simp [hat.underWay, eq_comm]
  · refine h.of_iff Iff.rfl Iff.rfl Iff.rfl fun o => ?_
    rw [underWay_send]
    simp [hk]

/-- A caller that gives up changes nothing for the worker. -/
lemma Sound.abandon (hw : Sound l w) (hc : w.calls.get? id = some ⟨job, .waiting, n⟩) :
    Sound l { w with calls := w.calls.set id ⟨job, .abandoned, n⟩ } := by
  obtain ⟨st, hfits, hat⟩ := hw.stage id
  rw [hc] at hfits
  cases hfits
  refine ⟨hw.nextId, fun hd => hw.job_set hc hd rfl, hw.pending, hw.underWay, hw.registered,
    hw.dispatched, hw.stage_set rfl (.abandoned job) ?_ fun _ h => ?_⟩
  · exact hat.of_iff Iff.rfl Iff.rfl Iff.rfl fun _ => Iff.rfl
  · exact h.of_iff Iff.rfl Iff.rfl Iff.rfl fun _ => Iff.rfl

/-- Within the line jobs may go on. -/
lemma Sound.of_underWay (hw : Sound l w) {current : Option (ℕ × DecodeJob)}
    {requests : List (ℕ × DecodeJob)} {responses : List (ℕ × DecodeOutput)}
    (hline : ({ w with current := current, requests := requests, responses := responses } :
      DecodeWorker).underWay = w.underWay) :
    Sound l { w with current := current, requests := requests, responses := responses } where
  nextId := hw.nextId
  job := hw.job
  pending := hw.pending
  underWay := hline ▸ hw.underWay
  registered := hw.registered
  dispatched := hw.dispatched
  stage := by
    intro k
    obtain ⟨st, hfits, hat⟩ := hw.stage k
    exact ⟨st, hfits, hat.of_iff Iff.rfl Iff.rfl Iff.rfl fun o => by rw [hline]⟩

/-! ### Dispatching -/

/-- The call of the response that is dispatched next waits for it, or its caller has given up. -/
lemma Sound.head (hw : Sound l w) {rs : List (ℕ × DecodeOutput)}
    (hresponses : w.responses = (id, o) :: rs) :
    At l w id (.underWay o) ∧ ∃ job, o = job.output ∧
      (w.calls.get? id = some ⟨job, .waiting, 0⟩ ∨ w.calls.get? id = some ⟨job, .abandoned, 0⟩) := by
  obtain ⟨st, hfits, hat⟩ := hw.stage id
  have hmem : (id, o) ∈ w.underWay := List.mem_append_left _ (hresponses ▸ List.mem_cons_self)
  obtain rfl := (hat.underWay o).mp hmem
  refine ⟨hat, ?_⟩
  generalize w.calls.get? id = c at hfits
  cases hfits with
  | waiting job => exact ⟨job, rfl, .inl rfl⟩
  | abandoned job => exact ⟨job, rfl, .inr rfl⟩

/-- Dispatching a response moves its number to the end, and no other one. -/
lemma Sound.at_dispatch (hw : Sound l w) {rs : List (ℕ × DecodeOutput)}
    (hresponses : w.responses = (id, o) :: rs) (calls : Table ℕ DecodeCall)
    (hw' : w' = { w with responses := rs, pending := w.pending.filter (· ≠ id), calls := calls })
    (hl' : l' = { l with dispatched := l.dispatched ++ [id] }) :
    (w'.underWay.map Prod.fst).Nodup ∧ At l' w' id .dispatched ∧
      ∀ {k st}, k ≠ id → At l w k st → At l' w' k st := by
  have hat := (hw.head hresponses).1
  have hline : w.underWay = (id, o) :: w'.underWay := hw' ▸ underWay_dispatch hresponses _ calls
  have hids := hw.underWay
  rw [hline, List.map_cons, List.nodup_cons] at hids
  have hgone : ∀ o', (id, o') ∉ w'.underWay :=
    fun o' hmem => hids.1 (List.mem_map.mpr ⟨_, hmem, rfl⟩)
  subst hw' hl'
  refine ⟨hids.2, ⟨by simp [hat.registered], by simp, by simp,
    fun o' => iff_of_false (hgone o') (by simp)⟩, fun hk h => ?_⟩
  refine h.of_iff Iff.rfl (by simp [hk]) (by simp [hk]) fun o' => ?_
  rw [hline]
  simp [hk]

/-- A call that waits gets the output. -/
lemma Sound.deliver (hw : Sound l w) {rs : List (ℕ × DecodeOutput)}
    (hresponses : w.responses = (id, o) :: rs) (hc : w.calls.get? id = some ⟨job, .waiting, n⟩) :
    Sound { l with dispatched := l.dispatched ++ [id] }
      { w with
        responses := rs
        pending := w.pending.filter (· ≠ id)
        calls := w.calls.set id ⟨job, .completed o, n + 1⟩ } := by
  obtain ⟨hat, job', rfl, hcall⟩ := hw.head hresponses
  obtain ⟨rfl, rfl⟩ : job' = job ∧ n = 0 := by
    rcases hcall with hcall | hcall <;> cases hc.symm.trans hcall
    exact ⟨rfl, rfl⟩
  obtain ⟨hids, hover, hothers⟩ := hw.at_dispatch hresponses
    (w.calls.set id ⟨job', .completed job'.output, 0 + 1⟩) rfl rfl
  refine ⟨hw.nextId, fun hd => hw.job_set hc hd rfl, hw.pending.filter _, hids, hw.registered, ?_,
    hw.stage_set rfl (.completed job') hover hothers⟩
  rw [← List.concat_eq_append]
  exact hw.dispatched.concat (by simp [hat.dispatched])

/-- Where nobody waits the response is dropped. -/
lemma Sound.drop (hw : Sound l w) {rs : List (ℕ × DecodeOutput)}
    (hresponses : w.responses = (id, o) :: rs)
    (hquiet : id ∈ w.pending → ∀ job n, w.calls.get? id ≠ some ⟨job, .waiting, n⟩) :
    Sound { l with dispatched := l.dispatched ++ [id] }
      { w with responses := rs, pending := w.pending.filter (· ≠ id) } := by
  obtain ⟨hat, job, -, hcall⟩ := hw.head hresponses
  have hgiven : w.calls.get? id = some ⟨job, .abandoned, 0⟩ :=
    hcall.resolve_left (hquiet (hat.pending.mpr (by simp)) job 0)
  obtain ⟨hids, hover, hothers⟩ := hw.at_dispatch hresponses w.calls rfl rfl
  refine ⟨hw.nextId, hw.job, hw.pending.filter _, hids, hw.registered, ?_, fun k => ?_⟩
  · rw [← List.concat_eq_append]
    exact hw.dispatched.concat (by simp [hat.dispatched])
  · by_cases hk : k = id
    · subst hk
      exact ⟨.dispatched, hgiven ▸ .ignored job, hover⟩
    · obtain ⟨st, hfits, hk'⟩ := hw.stage k
      exact ⟨st, hfits, hothers hk hk'⟩

/-! ### Runs -/

lemma note_dispatch {rs : List (ℕ × DecodeOutput)} (hresponses : w.responses = (id, o) :: rs) :
    w.note l .dispatch = { l with dispatched := l.dispatched ++ [id] } := by
  rw [note, hresponses]
  rfl

/-- Every step keeps the invariant. -/
theorem Sound.step (hw : Sound l w) (h : w.step e = some w') : Sound (w.note l e) w' := by
  cases step_cases h with
  | reserve job => exact hw.reserve job
  | register hc => exact hw.register hc
  | send hc => exact hw.send hc
  | abandon hc => exact hw.abandon hc
  | take hcurrent hrequests => exact hw.of_underWay (underWay_take hcurrent hrequests)
  | decode hcurrent => exact hw.of_underWay (underWay_decode hcurrent)
  | deliver hresponses _ hc =>
      rw [note_dispatch hresponses]
      exact hw.deliver hresponses hc
  | drop hresponses hquiet =>
      rw [note_dispatch hresponses]
      exact hw.drop hresponses hquiet

theorem Sound.run (hw : Sound l w) (es : List DecodeEvent) : Sound (w.ledger l es) (w.run es) := by
  induction es generalizing w l with
  | nil => exact hw
  | cons e r ih =>
      rw [ledger, DecodeWorker.run, List.foldl_cons]
      cases h : w.step e with
      | none => exact ih hw
      | some w' => exact ih (hw.step h)

lemma sound_run (es : List DecodeEvent) : Sound (historyOf es) (idle.run es) :=
  Sound.idle.run es

/-! ### What callers get -/

/-- An output that a call has got is that of its own job. -/
lemma Sound.output (hw : Sound l w) (ho : w.output? id = some o) :
    l.jobs[id]?.map DecodeJob.output = some o := by
  rw [output?] at ho
  split at ho
  · rename_i hc
    cases ho
    obtain ⟨st, hfits, -⟩ := hw.stage id
    rw [hc] at hfits
    cases hfits
    rw [hw.job hc, Option.map_some]
  · cases ho

/-- A call gets at most one output. -/
lemma Sound.deliveries_le_one (hw : Sound l w) (hc : w.calls.get? id = some c) : c.deliveries ≤ 1 := by
  obtain ⟨st, hfits, -⟩ := hw.stage id
  rw [hc] at hfits
  cases hfits <;> simp

/-- A response that is dispatched reaches the call that waits for it. -/
lemma Sound.reaches (hw : Sound l w) {rs : List (ℕ × DecodeOutput)}
    (hresponses : w.responses = (id, o) :: rs) (hc : w.calls.get? id = some c)
    (hwaits : c.phase = .waiting) : ∃ w', w.step .dispatch = some w' ∧ w'.output? id = some o := by
  have hpending : id ∈ w.pending := (hw.head hresponses).1.pending.mpr (by simp)
  obtain ⟨job, phase, n⟩ := c
  cases hwaits
  cases hstep : w.step .dispatch with
  | none =>
      rw [DecodeWorker.step, hresponses] at hstep
      cases hstep
  | some w' =>
      refine ⟨w', rfl, ?_⟩
      cases step_cases hstep with
      | deliver hresponses' _ hc' =>
          cases hresponses.symm.trans hresponses'
          rw [output?, Table.get?_set_self]
      | drop hresponses' hquiet =>
          cases hresponses.symm.trans hresponses'
          exact absurd hc (hquiet hpending job n)

/-! ### Working off -/

lemma run_cons (w : DecodeWorker) (e : DecodeEvent) (es : List DecodeEvent) :
    w.run (e :: es) = ((w.step e).getD w).run es := rfl

lemma run_append (w : DecodeWorker) (es es' : List DecodeEvent) :
    w.run (es ++ es') = (w.run es).run es' := List.foldl_append

lemma underWay_getD_take (w : DecodeWorker) : ((w.step .take).getD w).underWay = w.underWay := by
  cases h : w.step .take with
  | none => rfl
  | some w' =>
      cases step_cases h with
      | take hcurrent hrequests => exact underWay_take hcurrent hrequests

lemma underWay_getD_decode (w : DecodeWorker) : ((w.step .decode).getD w).underWay = w.underWay := by
  cases h : w.step .decode with
  | none => rfl
  | some w' =>
      cases step_cases h with
      | decode hcurrent => exact underWay_decode hcurrent

lemma underWay_getD_dispatch (w : DecodeWorker) (hw : w.responses = [] → w.underWay = []) :
    ((w.step .dispatch).getD w).underWay = w.underWay.tail := by
  cases h : w.step .dispatch with
  | none =>
      rw [step] at h
      split at h
      · cases h
      · rename_i hresponses
        rw [Option.getD_none, hw hresponses, List.tail_nil]
  | some w' =>
      cases step_cases h with
      | deliver hresponses _ _ => rw [underWay_dispatch hresponses, List.tail_cons]; rfl
      | drop hresponses _ => rw [underWay_dispatch hresponses, List.tail_cons]; rfl

/-- Taking, decoding and dispatching once takes the head off the line. -/
lemma underWay_round (w : DecodeWorker) :
    (w.run [.take, .decode, .dispatch]).underWay = w.underWay.tail := by
  rw [run_cons, run_cons, run_cons, DecodeWorker.run, List.foldl_nil, underWay_getD_dispatch,
    underWay_getD_decode, underWay_getD_take]
  obtain ⟨nextId, calls, pending, requests, current, responses⟩ := w
  cases current <;> cases requests <;> simp [step, underWay]

lemma workOff_succ (w : DecodeWorker) (n : ℕ) :
    w.workOff (n + 1) = (w.run [.take, .decode, .dispatch]).workOff n := by
  rw [workOff, List.replicate_succ, List.flatten_cons, run_append]
  rfl

lemma underWay_workOff (w : DecodeWorker) (n : ℕ) : (w.workOff n).underWay = w.underWay.drop n := by
  induction n generalizing w with
  | zero => rfl
  | succ n ih => rw [workOff_succ, ih, underWay_round, ← List.drop_one, List.drop_drop, Nat.add_comm]

/-- A call keeps its job, and only its caller gives up waiting. -/
lemma Sound.call_step (hw : Sound l w) (h : w.step e = some w') (hc : w.calls.get? id = some c) :
    ∃ c', w'.calls.get? id = some c' ∧ c'.job = c.job ∧
      (c.phase.Expects → e ≠ .abandon id → c'.phase.Expects) := by
  have hsame : ∃ c', w.calls.get? id = some c' ∧ c'.job = c.job ∧
      (c.phase.Expects → e ≠ .abandon id → c'.phase.Expects) := ⟨c, hc, rfl, fun h _ => h⟩
  have hset : ∀ {k d d'}, w.calls.get? k = some d → d'.job = d.job →
      (d.phase.Expects → e ≠ .abandon k → d'.phase.Expects) →
      ∃ c', (w.calls.set k d').get? id = some c' ∧ c'.job = c.job ∧
        (c.phase.Expects → e ≠ .abandon id → c'.phase.Expects) := by
    intro k d d' hd hjob hphase
    rw [Table.get?_set]
    split
    · rename_i hk
      subst hk
      cases hd.symm.trans hc
      exact ⟨d', rfl, hjob, hphase⟩
    · exact hsame
  cases step_cases h with
  | reserve job =>
      have hne : w.nextId ≠ id := by
        rintro rfl
        cases hw.get?_nextId.symm.trans hc
      simpa only [Table.get?_set, if_neg hne] using hsame
  | register hc' => exact hset hc' rfl fun h => h.elim
  | send hc' => exact hset hc' rfl fun _ _ => trivial
  | abandon hc' => exact hset hc' rfl fun _ hne => absurd rfl hne
  | take _ _ => exact hsame
  | decode _ => exact hsame
  | deliver _ _ hc' => exact hset hc' rfl fun _ _ => trivial
  | drop _ _ => exact hsame

lemma Sound.call_run (hw : Sound l w) {es : List DecodeEvent} (hc : w.calls.get? id = some c)
    (hexpects : c.phase.Expects) (hes : .abandon id ∉ es) :
    ∃ c', (w.run es).calls.get? id = some c' ∧ c'.job = c.job ∧ c'.phase.Expects := by
  induction es generalizing w l c with
  | nil => exact ⟨c, hc, rfl, hexpects⟩
  | cons e es ih =>
      obtain ⟨hne, hes⟩ := not_or.mp (List.mem_cons.not.mp hes)
      rw [run_cons]
      cases h : w.step e with
      | none => exact ih hw hc hexpects hes
      | some w' =>
          obtain ⟨c', hc', hjob, hphase⟩ := hw.call_step h hc
          obtain ⟨c'', hc'', hjob', hphase'⟩ := ih (hw.step h) hc' (hphase hexpects (Ne.symm hne)) hes
          exact ⟨c'', hc'', hjob'.trans hjob, hphase'⟩

/-- Where nothing is under way, whoever expects an output has it. -/
lemma Sound.output_of_quiet (hw : Sound l w) (hc : w.calls.get? id = some c)
    (hexpects : c.phase.Expects) (hquiet : w.underWay = []) : w.output? id = some c.job.output := by
  obtain ⟨st, hfits, hat⟩ := hw.stage id
  rw [hc] at hfits
  cases hfits with
  | reserved job => exact hexpects.elim
  | registered job => exact hexpects.elim
  | waiting job => exact absurd (hquiet ▸ (hat.underWay _).mpr rfl) List.not_mem_nil
  | abandoned job => exact hexpects.elim
  | ignored job => exact hexpects.elim
  | completed job => rw [output?, hc]

/-- As soon as the line is worked off, whoever expected an output has it. -/
lemma Sound.output_of_workOff (hw : Sound l w) (hc : w.calls.get? id = some c)
    (hexpects : c.phase.Expects) {n : ℕ} (hn : w.underWay.length ≤ n) :
    (w.workOff n).output? id = some c.job.output := by
  have hround : DecodeEvent.abandon id ∉
      (List.replicate n [DecodeEvent.take, .decode, .dispatch]).flatten := by simp
  obtain ⟨c', hc', hjob, hphase⟩ := hw.call_run hc hexpects hround
  have hquiet : (w.workOff n).underWay = [] := by
    rw [underWay_workOff, List.drop_eq_nil_iff]
    exact hn
  rw [← hjob]
  exact (hw.run _).output_of_quiet hc' hphase hquiet

/-- A caller that has not given up hands in its job, if it has not done so yet. -/
lemma exists_handedIn (hc : w.calls.get? id = some c) (hphase : c.phase ≠ .abandoned) :
    ∃ c', (w.run [.register id, .send id]).calls.get? id = some c' ∧ c'.job = c.job ∧
      c'.phase.Expects := by
  obtain ⟨job, phase, n⟩ := c
  cases phase with
  | reserved => simp [DecodeWorker.run, DecodeWorker.step, hc, goTo, CallPhase.Expects]
  | registered => simp [DecodeWorker.run, DecodeWorker.step, hc, goTo, CallPhase.Expects]
  | waiting => simp [DecodeWorker.run, DecodeWorker.step, hc, CallPhase.Expects]
  | abandoned => exact absurd rfl hphase
  | completed o => simp [DecodeWorker.run, DecodeWorker.step, hc, CallPhase.Expects]

/-! ### What is pending -/

lemma Sound.mem_pending_iff (hw : Sound l w) (id : ℕ) :
    id ∈ w.pending ↔ id ∈ l.registered ∧ id ∉ l.dispatched := by
  obtain ⟨st, -, hat⟩ := hw.stage id
  rw [hat.pending, hat.registered, hat.dispatched]

/-- Nobody is in the middle of handing in a job: no number is registered whose job is not sent. -/
def HandedIn (w : DecodeWorker) : Prop := ∀ id c, w.calls.get? id = some c → c.phase ≠ .registered

/-- Nothing is pending if and only if no job is under way and nobody is about to send one. -/
lemma Sound.pending_eq_nil_iff (hw : Sound l w) : w.pending = [] ↔ w.underWay = [] ∧ w.HandedIn := by
  constructor
  · intro hnil
    refine ⟨List.eq_nil_iff_forall_not_mem.mpr fun ⟨id, o⟩ hmem => ?_, fun id c hc hphase => ?_⟩
    · obtain ⟨st, -, hat⟩ := hw.stage id
      obtain rfl := (hat.underWay o).mp hmem
      exact List.not_mem_nil (hnil ▸ hat.pending.mpr (by simp))
    · obtain ⟨st, hfits, hat⟩ := hw.stage id
      obtain ⟨job, phase, n⟩ := c
      cases hphase
      rw [hc] at hfits
      cases hfits
      exact List.not_mem_nil (hnil ▸ hat.pending.mpr (by simp))
  · rintro ⟨hline, hsent⟩
    refine List.eq_nil_iff_forall_not_mem.mpr fun id hmem => ?_
    obtain ⟨st, hfits, hat⟩ := hw.stage id
    obtain ⟨hheard, hleft⟩ := hat.pending.mp hmem
    cases st with
    | unheard => exact hheard rfl
    | dispatched => exact hleft rfl
    | underWay o => exact List.not_mem_nil (hline ▸ (hat.underWay o).mpr rfl)
    | registered =>
        generalize hc : w.calls.get? id = c at hfits
        cases hfits with
        | registered job => exact hsent id _ hc rfl

/-! ### Turns -/

/-- Only a caller that hands in its job gets in the middle of it. -/
lemma HandedIn.step (hw : w.HandedIn) (h : w.step e = some w') (he : ∀ id, e ≠ .register id) :
    w'.HandedIn := by
  have hset : ∀ {id c}, c.phase ≠ .registered →
      ∀ k d, (w.calls.set id c).get? k = some d → d.phase ≠ .registered := by
    intro id c hc k d hd
    rw [Table.get?_set] at hd
    split at hd
    · cases hd
      exact hc
    · exact hw k d hd
  cases step_cases h with
  | reserve job => exact hset (by simp)
  | register hc => exact absurd rfl (he _)
  | send hc => exact hset (by simp)
  | abandon hc => exact hset (by simp)
  | take _ _ => exact hw
  | decode _ => exact hw
  | deliver _ _ _ => exact hset (by simp)
  | drop _ _ => exact hw

/-- A turn keeps it: a caller that hands in its job sends it before anyone else goes on. -/
lemma HandedIn.turn (hw : w.HandedIn) (t : DecodeTurn) : (w.run (w.stepsOf t)).HandedIn := by
  have hone : ∀ {e}, (∀ id, e ≠ .register id) → (w.run [e]).HandedIn := by
    intro e he
    rw [DecodeWorker.run, List.foldl_cons, List.foldl_nil]
    cases h : w.step e with
    | none => exact hw
    | some w' => exact hw.step h he
  cases t with
  | call job =>
      have hrun : w.run (w.stepsOf (.call job)) =
          { w with
            nextId := w.nextId + 1
            calls := ((w.calls.set w.nextId ⟨job, .reserved, 0⟩).set w.nextId
              ⟨job, .registered, 0⟩).set w.nextId ⟨job, .waiting, 0⟩
            pending := w.nextId :: w.pending
            requests := w.requests ++ [(w.nextId, job)] } := by
        simp [DecodeWorker.run, stepsOf, DecodeWorker.step, goTo]
      rw [hrun]
      intro k c hc
      simp only [Table.get?_set] at hc
      split at hc
      · cases hc
        simp
      · exact hw k c hc
  | abandon id => exact hone (by simp)
  | take => exact hone (by simp)
  | decode => exact hone (by simp)
  | dispatch => exact hone (by simp)

/-- Turns are runs, and between them nobody is in the middle of handing in a job. -/
lemma runTurns_spec (hw : w.HandedIn) (ts : List DecodeTurn) :
    (w.runTurns ts).HandedIn ∧ ∃ es, w.run es = w.runTurns ts := by
  induction ts generalizing w with
  | nil => exact ⟨hw, [], rfl⟩
  | cons t r ih =>
      obtain ⟨hhanded, es, hes⟩ := ih (hw.turn t)
      refine ⟨hhanded, w.stepsOf t ++ es, ?_⟩
      rw [DecodeWorker.run, List.foldl_append]
      exact hes

/-- However callers, the decoder and the dispatcher take their steps: an output that a call has got is that
of the job that it was made for, no response is dispatched twice, and no call gets two outputs. A response
that is dispatched to a call that waits reaches it. What is pending are the numbers that were registered
and whose response has not been dispatched, so nothing is as soon as no job is queued, being decoded or
awaiting dispatch and no caller is between registering its number and sending its job, where it is at
no time if only tasks are interleaved. -/
theorem calls_get_their_own_outputs {es : List DecodeEvent} (h : idle.run es = w) :
    (∀ id o, w.output? id = some o → (historyOf es).jobs[id]?.map DecodeJob.output = some o) ∧
    (historyOf es).dispatched.Nodup ∧ (∀ id c, w.calls.get? id = some c → c.deliveries ≤ 1) ∧
    (∀ id o rs c, w.responses = (id, o) :: rs → w.calls.get? id = some c → c.phase = .waiting →
      ∃ w', w.step .dispatch = some w' ∧ w'.output? id = some o) ∧
    w.pending.Nodup ∧
    (∀ id, id ∈ w.pending ↔ id ∈ (historyOf es).registered ∧ id ∉ (historyOf es).dispatched) ∧
    (w.pending = [] ↔ w.requests = [] ∧ w.current = none ∧ w.responses = [] ∧ w.HandedIn) ∧
    ∀ ts v, idle.runTurns ts = v → (∃ es', idle.run es' = v) ∧
      (v.pending = [] ↔ v.requests = [] ∧ v.current = none ∧ v.responses = []) := by
  subst h
  have hw := sound_run es
  refine ⟨fun id o => hw.output, hw.dispatched, fun id c => hw.deliveries_le_one,
    fun id o rs c => hw.reaches, hw.pending, hw.mem_pending_iff, ?_, ?_⟩
  · rw [hw.pending_eq_nil_iff, underWay_eq_nil_iff, and_assoc, and_assoc]
  · rintro ts v rfl
    obtain ⟨hhanded, es', hes'⟩ := runTurns_spec (w := idle) nofun ts
    refine ⟨⟨es', hes'⟩, ?_⟩
    rw [← hes', (sound_run es').pending_eq_nil_iff, underWay_eq_nil_iff]
    exact and_iff_left (hes' ▸ hhanded)

/-- Two calls are made, and the second one sends its job first. Once this is decoded the first caller has
given up; then the second one gets its output, and only the number of the first is pending. -/
theorem calls_get_their_own_outputs_of_overtaking :
    ∃ w w' o, idle.run [.reserve ⟨.tally, [0]⟩, .reserve ⟨.result, [1]⟩, .register 1, .register 0,
        .send 1, .send 0, .take, .abandon 0, .decode] = w ∧
      w.step .dispatch = some w' ∧ w'.output? 1 = some o ∧
      idle.run [.reserve ⟨.tally, [0]⟩, .reserve ⟨.result, [1]⟩, .register 1, .register 0,
        .send 1, .send 0, .take, .abandon 0, .decode, .dispatch] = w' ∧
      some (DecodeJob.output ⟨.result, [1]⟩) = some o ∧ w'.pending = [0] ∧
      0 ∈ (historyOf [.reserve ⟨.tally, [0]⟩, .reserve ⟨.result, [1]⟩, .register 1, .register 0,
        .send 1, .send 0, .take, .abandon 0, .decode, .dispatch]).registered := by
  obtain ⟨-, -, -, hreaches, -⟩ := @calls_get_their_own_outputs _ [.reserve ⟨.tally, [0]⟩,
    .reserve ⟨.result, [1]⟩, .register 1, .register 0, .send 1, .send 0, .take, .abandon 0, .decode] rfl
  obtain ⟨hown, -, -, -, -, hpending, -⟩ := @calls_get_their_own_outputs _ [.reserve ⟨.tally, [0]⟩,
    .reserve ⟨.result, [1]⟩, .register 1, .register 0, .send 1, .send 0, .take, .abandon 0, .decode,
    .dispatch] rfl
  obtain ⟨w', hstep, hout⟩ := hreaches 1 (DecodeJob.output ⟨.result, [1]⟩) [] _ rfl rfl rfl
  cases hstep
  exact ⟨_, _, _, rfl, rfl, hout, rfl, hown 1 _ hout, rfl, ((hpending 0).mp (by decide)).1⟩

end DecodeWorker

end ChainElection
