import Mathlib.Tactic
import ChainElection.Proofs.Monitor.Evidence
import ChainElection.Proofs.Service.Answer

/-!
Every status is earned.

A tracker moves submissions only by what its monitors are told. If they are told
by a service over HTTP, a verdict goes back to a record that somebody with the
token has stored there.

* `Deployment.Stored`: a record is the last one that was stored for a hash.
  `Indexed.act` is the invariant that the index holds only such records.
* `Deployment.Vouched`: an answer that is on its way to a monitor was given by
  the service when it had such a record.
* `Deployment.Earned` is the evidence that a run of a deployment gives for a
  status, `Faithful` the invariant of its runs.
* `every_status_is_earned` says it of trackers and of deployments.
-/

namespace ChainElection.Deployment

variable {d₀ d d' : Deployment} {us : List DeploymentAction} {x : DeploymentAction}
  {token : Option String} {h : TransactionHash} {k : Account × TransactionHash}

/-! ### What the index has -/

/-- In these events a record was stored for a hash: by a request that had the right to, as the last one of
its hash in the request, and no later request that stored records had one for this hash. -/
def Stored (token : Option String) (us : List DeploymentAction) (h : TransactionHash)
    (r : SubmissionRecord) : Prop :=
  ∃ before request after pre post, us = before ++ .request request :: after ∧
    request.Stores token (pre ++ r :: post) ∧ r.hash = h ∧ (∀ r' ∈ post, r'.hash ≠ h) ∧
    ∀ later rs, .request later ∈ after → later.Stores token rs → ∀ r' ∈ rs, r'.hash ≠ h

lemma Stored.hash {r : SubmissionRecord} (hstored : Stored token us h r) : r.hash = h := by
  obtain ⟨_, _, _, _, _, _, _, hash, _⟩ := hstored
  exact hash

/-- A record stays the last one until another one is stored for its hash. -/
lemma Stored.append {r : SubmissionRecord} (hstored : Stored token us h r)
    (hx : ∀ request rs, x = .request request → request.Stores token rs → ∀ r' ∈ rs, r'.hash ≠ h) :
    Stored token (us ++ [x]) h r := by
  obtain ⟨before, request, after, pre, post, rfl, hstores, hash, hpost, hafter⟩ := hstored
  refine ⟨before, request, after ++ [x], pre, post, by simp, hstores, hash, hpost, ?_⟩
  intro later rs hlater
  rcases List.mem_append.mp hlater with hold | hnew
  · exact hafter later rs hold
  · exact hx later rs (List.mem_singleton.mp hnew).symm

/-- The index holds, for every hash, at most the last record that was stored for it. -/
structure Indexed (token : Option String) (us : List DeploymentAction) (s : SubmissionService) :
    Prop where
  token_eq : s.token = token
  rows : ∃ t, s.database.rows = some t ∧ ∀ {h : TransactionHash} {row},
    t.get? h.text = some row → ∃ r, row = .ofRecord r ∧ Stored token us h r

/-- Events that are no requests do not concern the index. -/
lemma Indexed.append {s : SubmissionService} (hs : Indexed token us s)
    (hx : ∀ request, x ≠ .request request) : Indexed token (us ++ [x]) s := by
  obtain ⟨t, ht, hget⟩ := hs.rows
  refine ⟨hs.token_eq, t, ht, fun hrow => ?_⟩
  obtain ⟨r, hr, hstored⟩ := hget hrow
  exact ⟨r, hr, hstored.append fun request _ heq => absurd heq (hx request)⟩

/-- The rows of a batch of records, by the last record of a hash. -/
lemma exists_lastOf {rs : List SubmissionRecord} {row : SubmissionRow}
    (hrow : SubmissionRow.lastOf h.text (rs.map .ofRecord) = some row) :
    ∃ r pre post, row = .ofRecord r ∧ rs = pre ++ r :: post ∧ r.hash = h ∧
      ∀ r' ∈ post, r'.hash ≠ h := by
  obtain ⟨hash, pre, post, hsplit, hpost⟩ := SubmissionRow.lastOf_eq_some hrow
  obtain ⟨pre', rest, rfl, -, hrest⟩ := List.map_eq_append_iff.mp hsplit
  obtain ⟨r, post', rfl, rfl, rfl⟩ := List.map_eq_cons_iff.mp hrest
  refine ⟨r, pre', post', rfl, rfl, TransactionHash.text_injective hash, fun r' hr' heq => ?_⟩
  exact hpost (.ofRecord r') (List.mem_map_of_mem hr') (congrArg TransactionHash.text heq)

/-- A request leaves the index with the last records only. -/
lemma Indexed.request {s : SubmissionService} (hs : Indexed token us s) (request : ServiceRequest) :
    Indexed token (us ++ [.request request]) (s.answer request).2 := by
  obtain ⟨t, ht, hget⟩ := hs.rows
  obtain ⟨t', hanswer, hcases⟩ := SubmissionService.answer_rows ht request
  rw [hanswer]
  refine ⟨hs.token_eq, t', rfl, fun {h row} hrow => ?_⟩
  rw [hs.token_eq] at hcases
  rcases hcases with ⟨rs, hstores, hrows⟩ | ⟨hnot, rfl⟩
  · rw [hrows] at hrow
    cases hlast : SubmissionRow.lastOf h.text (rs.map .ofRecord) with
    | some row' =>
        rw [hlast, Option.some_or, Option.some.injEq] at hrow
        subst hrow
        obtain ⟨r, pre, post, rfl, rfl, hash, hpost⟩ := exists_lastOf hlast
        exact ⟨r, rfl, us, request, [], pre, post, rfl, hstores, hash, hpost, by simp⟩
    | none =>
        rw [hlast, Option.none_or] at hrow
        obtain ⟨r, hr, hstored⟩ := hget hrow
        refine ⟨r, hr, hstored.append fun later rs' heq hlater r' hr' heq' => ?_⟩
        cases heq
        obtain rfl : rs = rs' := Except.ok.inj (hstores.records.symm.trans hlater.records)
        refine SubmissionRow.lastOf_eq_none.mp hlast (.ofRecord r') (List.mem_map_of_mem hr') ?_
        exact congrArg TransactionHash.text heq'
  · obtain ⟨r, hr, hstored⟩ := hget hrow
    refine ⟨r, hr, hstored.append fun later rs heq hlater => ?_⟩
    cases heq
    exact absurd hlater (hnot rs)

/-! ### Answers on their way -/

/-- The record that is on its way to a monitor was given by the service at an earlier moment. By then it
had been stored for the monitor's hash, as the last one, and it says the same of it. -/
def Vouched (token : Option String) (us : List DeploymentAction) (id : ℕ) (h : TransactionHash)
    (r : SubmissionRecord) : Prop :=
  ∃ before after stored, us = before ++ .serve id :: after ∧ Stored token before h stored ∧
    r.hash = h ∧ r.account = stored.account ∧ r.verified = stored.verified

lemma Vouched.append {id : ℕ} {r : SubmissionRecord} (hv : Vouched token us id h r)
    (x : DeploymentAction) : Vouched token (us ++ [x]) id h r := by
  obtain ⟨before, after, stored, rfl, hstored⟩ := hv
  exact ⟨before, after ++ [x], stored, by simp, hstored⟩

/-- Every record on its way to a monitor is vouched for. -/
def AllVouched (token : Option String) (us : List DeploymentAction) (d : Deployment) : Prop :=
  ∀ id r, d.answers.get? id = some (.ok (some r)) →
    ∃ m, d.tracker.monitors.get? id = some m ∧ Vouched token us id m.hash r

/-- What the service gives is vouched for. -/
lemma AllVouched.serve {id : ℕ} (hd : AllVouched token us d) (hs : Indexed token us d.service)
    (hserve : d.serve id = some d') :
    AllVouched token (us ++ [.serve id]) d' ∧ d'.service = d.service ∧ d'.tracker = d.tracker := by
  rw [Deployment.serve] at hserve
  split at hserve
  · rename_i m hm _
    split at hserve
    · obtain ⟨answer, hanswer, hrecord⟩ := d.gateway.submissionStatus_at m.hash d.service
      rw [hanswer, Option.some.injEq] at hserve
      subst hserve
      refine ⟨fun j r hr => ?_, rfl, rfl⟩
      rw [Table.get?_set] at hr
      split at hr
      · rename_i hj
        subst hj
        obtain ⟨row, hrow, hread⟩ := hrecord r (Option.some.inj hr)
        obtain ⟨t, ht, hget⟩ := hs.rows
        rw [IndexDatabase.byHash, ht, Except.ok.injEq] at hrow
        obtain ⟨stored, rfl, hstored⟩ := hget hrow
        obtain ⟨hash, haccount, hverified⟩ := SubmissionRow.record_ofRecord hread
        exact ⟨m, hm, us, [], stored, rfl, hstored, hash.trans hstored.hash, haccount, hverified⟩
      · obtain ⟨n, hn, hv⟩ := hd j r hr
        exact ⟨n, hn, hv.append _⟩
    · cases hserve
  · cases hserve

/-- Monitors stay there, and keep their hashes, whatever happens among them. -/
lemma AllVouched.track {t : Tracker} {y : TrackerAction} (hd : AllVouched token us d)
    (hsound : d.tracker.Sound) (hact : d.tracker.act y = some t) (x : DeploymentAction) :
    AllVouched token (us ++ [x]) { d with tracker := t } := by
  intro id r hr
  obtain ⟨m, hm, hv⟩ := hd id r hr
  obtain ⟨m', hm', hsame⟩ := hsound.exists_same hact hm
  exact ⟨m', hm', hsame.hash ▸ hv.append x⟩

lemma AllVouched.deliver {id : ℕ} (hd : AllVouched token us d) (hsound : d.tracker.Sound)
    (hdeliver : d.deliver id = some d') : AllVouched token (us ++ [.deliver id]) d' := by
  rw [Deployment.deliver] at hdeliver
  split at hdeliver
  · cases hdeliver
  · rename_i answer _
    obtain ⟨t, ht, rfl⟩ := Option.map_eq_some_iff.mp hdeliver
    intro j r hr
    rw [Table.get?_erase] at hr
    split at hr
    · cases hr
    · exact hd.track (y := .step id (.answered answer)) hsound ht _ j r hr

/-! ### Evidence -/

/-- What has to happen in a deployment for a submission to have a status. For all but the first, a monitor
of it was told how its transaction was finalized; for a verdict, a record with this verdict came to a
monitor of it after it had come to be approved, and the record is vouched for. -/
inductive Earned (d₀ : Deployment) (k : Account × TransactionHash) :
    List DeploymentAction → SubmissionStatus → Prop where
  | committed {us : List DeploymentAction} : Earned d₀ k us .committed
  | finalized {us vs : List DeploymentAction} {d : Deployment} {id : ℕ} {m : Monitor}
      {outcome : TransactionOutcome} (hd : d₀.run us = some d)
      (hm : d.tracker.monitors.get? id = some m) (hkey : m.key = k) :
      Earned d₀ k (us ++ .track (.step id (.finalized (.ok outcome))) :: vs)
        (Tracker.statusAfter outcome)
  | judged {us vs : List DeploymentAction} {d : Deployment} {id : ℕ} {m : Monitor}
      {r : SubmissionRecord} (happroved : Earned d₀ k us .approved) (hd : d₀.run us = some d)
      (hm : d.tracker.monitors.get? id = some m) (hkey : m.key = k)
      (hanswer : d.answers.get? id = some (.ok (some r)))
      (hvouched : Vouched d₀.service.token us id k.2 r) :
      Earned d₀ k (us ++ .deliver id :: vs) (Tracker.statusOfVerdict r.verified)

lemma Earned.append {status : SubmissionStatus} (he : Earned d₀ k us status)
    (vs : List DeploymentAction) : Earned d₀ k (us ++ vs) status := by
  cases he with
  | committed => exact .committed
  | finalized hd hm hkey =>
      rw [List.append_assoc, List.cons_append]
      exact .finalized hd hm hkey
  | judged happroved hd hm hkey hanswer hvouched =>
      rw [List.append_assoc, List.cons_append]
      exact .judged happroved hd hm hkey hanswer hvouched

/-- What holds in the course of a run: the index holds the last records, what is on its way is vouched for,
and what is stored has its evidence. -/
structure Faithful (d₀ : Deployment) (us : List DeploymentAction) (d : Deployment) : Prop where
  sound : d.tracker.Sound
  indexed : Indexed d₀.service.token us d.service
  vouched : AllVouched d₀.service.token us d
  evident : d.tracker.Evident fun k => Earned d₀ k us

/-- What happens among the monitors leaves its evidence behind; verdicts do not come about in this way. -/
lemma Faithful.track {y : TrackerAction} {t : Tracker} (hd : Faithful d₀ us d)
    (hrun : d₀.run us = some d) (hanswer : y.isAnswer = false) (hact : d.tracker.act y = some t) :
    Faithful d₀ (us ++ [.track y]) { d with tracker := t } where
  sound := hd.sound.act hact
  indexed := hd.indexed.append fun _ heq => by cases heq
  vouched := hd.vouched.track hd.sound hact _
  evident := by
    refine hd.evident.act hact ⟨fun he => he.append _, fun _ => .committed, ?_, ?_⟩
    · rintro id m outcome rfl hm
      exact .finalized hrun hm rfl
    · rintro id m r rfl
      cases hanswer

/-- A delivery is evidence for the verdict that it brings. -/
lemma Faithful.deliver {id : ℕ} (hd : Faithful d₀ us d) (hrun : d₀.run us = some d)
    (hdeliver : d.deliver id = some d') : Faithful d₀ (us ++ [.deliver id]) d' := by
  have hvouched := hd.vouched.deliver hd.sound hdeliver
  rw [Deployment.deliver] at hdeliver
  split at hdeliver
  · cases hdeliver
  · rename_i answer hanswer
    obtain ⟨t, ht, rfl⟩ := Option.map_eq_some_iff.mp hdeliver
    have hact : d.tracker.act (.step id (.answered answer)) = some t := ht
    have hindexed : Indexed d₀.service.token (us ++ [.deliver id]) d.service :=
      hd.indexed.append fun _ heq => by cases heq
    refine ⟨hd.sound.act hact, hindexed, hvouched, ?_⟩
    refine hd.evident.act hact ⟨fun he => he.append _, fun _ => .committed, ?_, ?_⟩
    · rintro _ _ _ heq
      cases heq
    · rintro j m r heq hm happroved
      cases heq
      obtain ⟨n, hn, hv⟩ := hd.vouched _ _ hanswer
      obtain rfl : m = n := Option.some.inj (hm.symm.trans hn)
      exact .judged happroved hrun hm rfl hanswer hv

/-- Whatever happens keeps the invariant. -/
theorem Faithful.act (hd : Faithful d₀ us d) (hrun : d₀.run us = some d) (hact : d.act x = some d') :
    Faithful d₀ (us ++ [x]) d' := by
  cases x with
  | track y =>
      rw [Deployment.act] at hact
      split at hact
      · cases hact
      · rename_i hanswer
        obtain ⟨t, ht, rfl⟩ := Option.map_eq_some_iff.mp hact
        exact hd.track hrun (Bool.eq_false_iff.mpr hanswer) ht
  | request r =>
      cases hact
      refine ⟨hd.sound, hd.indexed.request r, fun id r hr => ?_, hd.evident.mono fun he => he.append _⟩
      obtain ⟨m, hm, hv⟩ := hd.vouched id r hr
      exact ⟨m, hm, hv.append _⟩
  | serve id =>
      obtain ⟨hvouched, hservice, htracker⟩ := hd.vouched.serve hd.indexed hact
      refine ⟨htracker ▸ hd.sound, ?_, hvouched, ?_⟩
      · rw [hservice]
        exact hd.indexed.append fun _ heq => by cases heq
      · rw [htracker]
        exact hd.evident.mono fun he => he.append _
  | deliver id => exact hd.deliver hrun hact

/-! ### Runs -/

/-- A run goes on where a run ends. -/
lemma run_append (d : Deployment) (xs ys : List DeploymentAction) :
    d.run (xs ++ ys) = (d.run xs).bind fun e => e.run ys := by
  induction xs generalizing d with
  | nil => rfl
  | cons x r ih =>
      rw [List.cons_append, run, run, Option.bind_assoc]
      exact Option.bind_congr fun e _ => ih e

/-- The invariant holds in the course of every run. -/
theorem run_faithful (h₀ : Faithful d₀ [] d₀) {xs : List DeploymentAction} (h : d₀.run xs = some d) :
    Faithful d₀ xs d := by
  induction xs using List.reverseRecOn generalizing d with
  | nil =>
      cases h
      exact h₀
  | append_singleton us x ih =>
      rw [run_append] at h
      obtain ⟨e, he, hx⟩ := Option.bind_eq_some_iff.mp h
      obtain ⟨d', hact, hd'⟩ := Option.bind_eq_some_iff.mp hx
      cases hd'
      exact (ih he).act he hact

lemma faithful_initial {settings : TrackerSettings} {store : SubmissionStore}
    (hempty : ∀ a, store.contents a = .ok []) (gateway : VerifierGateway) (token : Option String)
    (build : BuildInfo) :
    Faithful (initial settings store gateway token build) []
      (initial settings store gateway token build) where
  sound := .empty settings store
  indexed := ⟨rfl, .empty, rfl, fun hrow => by cases hrow⟩
  vouched := fun _ _ hr => by cases hr
  evident := Tracker.evident_empty hempty _

/-- Every status is earned. In a tracker that had nothing stored in the beginning, a submission has moved
only because its monitors were told how its transaction was finalized and, once it was approved, got a
verdict. If the verdicts come over HTTP from a service whose index was empty in the beginning, then every
verdict was given by the service for exactly this hash, at a moment when the last record that someone with
the token had stored for it said the same. -/
theorem every_status_is_earned {settings : TrackerSettings} {store : SubmissionStore}
    (hempty : ∀ a, store.contents a = .ok []) :
    (∀ xs t a ss s, (Tracker.empty settings store).run xs = some t → t.store.contents a = .ok ss →
      s ∈ ss → Tracker.Earned (.empty settings store) (a, s.hash) xs s.status) ∧
    ∀ gateway token build xs d a ss s,
      (initial settings store gateway token build).run xs = some d →
      d.tracker.store.contents a = .ok ss → s ∈ ss →
      Earned (initial settings store gateway token build) (a, s.hash) xs s.status := by
  refine ⟨fun xs t a ss s h hss hs => ?_, fun gateway token build xs d a ss s h hss hs => ?_⟩
  · exact (Tracker.run_earned (Tracker.evident_empty hempty) h).stored hss hs
  · exact (run_faithful (faithful_initial hempty gateway token build) h).evident.stored hss hs

/-- A ballot is sent and approved, once in a tracker by itself and once next to a service that somebody asks
for its health meanwhile. -/
theorem every_status_is_earned_of_approved :
    ∃ t d, (Tracker.empty ⟨10, none⟩ .ofLists).run
        [.acquire ⟨.replicate 1⟩, .add 0 ⟨.replicate 2⟩ .epoch, .step 0 .start,
          .step 0 (.finalized (.ok .success))] = some t ∧
      (initial ⟨10, none⟩ .ofLists ⟨"http://localhost"⟩ (some "secret") ⟨"", ""⟩).run
        [.track (.acquire ⟨.replicate 1⟩), .track (.add 0 ⟨.replicate 2⟩ .epoch),
          .track (.step 0 .start), .request ⟨"GET", "/healthz", [], []⟩,
          .track (.step 0 (.finalized (.ok .success)))] = some d ∧
      t.store.contents ⟨.replicate 1⟩ = .ok [⟨⟨.replicate 2⟩, .approved, .epoch⟩] ∧
      d.tracker.store.contents ⟨.replicate 1⟩ = .ok [⟨⟨.replicate 2⟩, .approved, .epoch⟩] ∧
      Tracker.Earned (.empty ⟨10, none⟩ .ofLists) (⟨.replicate 1⟩, ⟨.replicate 2⟩)
        [.acquire ⟨.replicate 1⟩, .add 0 ⟨.replicate 2⟩ .epoch, .step 0 .start,
          .step 0 (.finalized (.ok .success))] .approved ∧
      Earned (initial ⟨10, none⟩ .ofLists ⟨"http://localhost"⟩ (some "secret") ⟨"", ""⟩)
        (⟨.replicate 1⟩, ⟨.replicate 2⟩)
        [.track (.acquire ⟨.replicate 1⟩), .track (.add 0 ⟨.replicate 2⟩ .epoch),
          .track (.step 0 .start), .request ⟨"GET", "/healthz", [], []⟩,
          .track (.step 0 (.finalized (.ok .success)))] .approved := by
  have hearned := @every_status_is_earned ⟨10, none⟩ .ofLists fun _ => rfl
  refine ⟨_, _, rfl, rfl, rfl, rfl, ?_, ?_⟩
  · exact hearned.1 _ _ ⟨.replicate 1⟩ _ ⟨⟨.replicate 2⟩, .approved, .epoch⟩ rfl rfl
      List.mem_cons_self
  · exact hearned.2 _ _ _ _ _ ⟨.replicate 1⟩ _ ⟨⟨.replicate 2⟩, .approved, .epoch⟩ rfl rfl
      List.mem_cons_self

end ChainElection.Deployment
