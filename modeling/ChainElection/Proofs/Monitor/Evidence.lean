import Mathlib.Tactic
import ChainElection.Proofs.Monitor.Watch

/-!
Evidence: what has to have happened for a submission to have its status.

Only two kinds of events move a submission on: the node says how its transaction
was finalized, or the verification service judges it. What counts as evidence
for a status is left open here, so that the same argument serves a tracker by
itself and one whose answers come from somewhere.

* `Monitor.IsTold`: which events move a monitor's submission, and where.
  `Turns.contents_isTold`: a turn moves its submission there or nowhere.
* `Tracker.Records` says what evidence an event has to leave behind, and
  `Tracker.Evident` that there is evidence for all that is stored.
  `Evident.act` carries it over an event.
* `Tracker.Earned` is the evidence that a run of a tracker itself gives;
  `run_earned` puts it together.
-/

namespace ChainElection

/-- The event tells a monitor to move its submission to a status: the node says how its transaction was
finalized, or a poll gets a verdict. -/
inductive Monitor.IsTold (m : Monitor) : MonitorEvent → SubmissionStatus → Prop where
  | finalized (outcome : TransactionOutcome) :
      IsTold m (.finalized (.ok outcome)) (Tracker.statusAfter outcome)
  | judged (hpolls : m.phase.expects = some .approved) (r : SubmissionRecord) :
      IsTold m (.answered (.ok (some r))) (Tracker.statusOfVerdict r.verified)

namespace Tracker

open Submission

variable {t t' : Tracker} {m m' : Monitor} {event : MonitorEvent} {id : ℕ} {x : TrackerAction}
  {a : Account}

/-! ### What a turn writes, by its event -/

/-- Ending a round moves the submission to the given status, or leaves all lists as they are. -/
lemma endRound_contents (t : Tracker) (m : Monitor) (next : SubmissionStatus) (a : Account) :
    (t.endRound m next).1.store.contents a = t.store.contents a ∨
      m.account = a ∧ ∃ ss ss', t.store.contents a = .ok ss ∧ moveFirst m.hash next ss = some (.ok ss') ∧
        (t.endRound m next).1.store.contents a = .ok ss' := by
  rw [endRound, persist]
  cases hload : t.store.load m.account with
  | error e => exact .inl rfl
  | ok ss =>
      simp only
      cases hmove : moveFirst m.hash next ss with
      | none => exact .inl rfl
      | some moved =>
          cases moved with
          | error e => exact .inl rfl
          | ok ss' =>
              simp only
              cases hsave : t.store.save m.account ss' with
              | error e => exact .inl rfl
              | ok store =>
                  have hsaved := (moveFirst_changes hmove).contents_save hload hsave a
                  by_cases hab : m.account = a
                  · subst hab
                    rw [if_pos rfl] at hsaved
                    exact .inr ⟨rfl, ss, ss', SubmissionStore.contents_of_load hload, hmove, hsaved⟩
                  · rw [if_neg hab] at hsaved
                    exact .inl hsaved

/-- A turn moves its submission to where it is told to, or leaves all lists as they are. -/
lemma Turns.contents_isTold (h : Turns t m event t' m') (a : Account) :
    t'.store.contents a = t.store.contents a ∨
      m.account = a ∧ ∃ next, m.IsTold event next ∧ ∃ ss ss', t.store.contents a = .ok ss ∧
        moveFirst m.hash next ss = some (.ok ss') ∧ t'.store.contents a = .ok ss' := by
  cases h with
  | finalized _ _ outcome =>
      exact (endRound_contents t m _ a).imp_right fun ⟨hab, hmove⟩ =>
        ⟨hab, _, .finalized outcome, hmove⟩
  | judged hphase _ r =>
      exact (endRound_contents t m _ a).imp_right fun ⟨hab, hmove⟩ =>
        ⟨hab, _, .judged (by rw [hphase]; rfl) r, hmove⟩
  | _ => exact .inl rfl

/-! ### What a monitor that polls has seen -/

/-- There is an approved submission of the monitor in the list that is kept. -/
def SeesApproved (t : Tracker) (m : Monitor) : Prop :=
  ∃ ss s, t.store.contents m.account = .ok ss ∧ s ∈ ss ∧ s.hash = m.hash ∧ s.status = .approved

/-- A monitor that begins to poll when its round begins has found its submission approved. -/
lemma beginRound_seesApproved (h : (t.beginRound m).phase.expects = some .approved) :
    t.SeesApproved m := by
  cases haborted : t.scopes.isAborted m.signal with
  | true =>
      rw [beginRound_of_isAborted haborted] at h
      cases h
  | false =>
      have hbegins := beginRound_begins haborted
      generalize t.beginRound m = m' at h hbegins
      cases hbegins with
      | approved hload hstatus =>
          obtain ⟨s, hs, happroved⟩ := Option.map_eq_some_iff.mp hstatus
          exact ⟨_, s, SubmissionStore.contents_of_load hload, List.mem_of_find?_eq_some hs,
            by simpa using List.find?_some hs, happroved⟩
      | failed _ => cases h
      | missing _ _ => cases h
      | committed _ _ => cases h
      | settled _ _ _ => cases h

/-- So has one that begins to poll after its submission was moved. -/
lemma endRound_seesApproved {next : SubmissionStatus}
    (h : (t.endRound m next).2.phase.expects = some .approved) :
    (t.endRound m next).1.SeesApproved m := by
  rw [endRound] at h ⊢
  split at h
  · cases h
  · rename_i t₁ m₁ hpersist
    obtain ⟨ss, s, hss, hs, hash, happroved⟩ := beginRound_seesApproved h
    have hsame := (persist_cases hpersist).2
    exact ⟨ss, s, hsame.account ▸ hss, hs, hash.trans hsame.hash, happroved⟩

/-- A monitor that polls after a turn did so before, or it has found its submission approved. -/
lemma Turns.seesApproved (h : Turns t m event t' m') (hpolls : m'.phase.expects = some .approved) :
    m.phase.expects = some .approved ∨ t'.SeesApproved m := by
  cases h with
  | started _ => exact .inr (beginRound_seesApproved hpolls)
  | finalized _ _ _ => exact .inr (endRound_seesApproved hpolls)
  | judged _ _ _ => exact .inr (endRound_seesApproved hpolls)
  | fellAsleep hphase _ => exact .inl (by rw [hphase]; rfl)
  | awoke hphase _ _ => exact .inl (by rw [hphase]; rfl)
  | gaveUp hphase _ _ => exact .inl (by rw [hphase]; rfl)
  | nodeFailed _ _ => cases hpolls
  | verifierFailed _ _ => cases hpolls
  | stopped _ _ => cases hpolls

/-! ### Evidence over an event -/

section Evidence

variable {E E' : Account × TransactionHash → SubmissionStatus → Prop}

/-- What evidence an event has to leave behind: none is lost, none is needed for what was just sent, and
the event itself is evidence for the status to which it leads; a verdict is so only for what was approved
before. -/
structure Records (t : Tracker) (x : TrackerAction)
    (E E' : Account × TransactionHash → SubmissionStatus → Prop) : Prop where
  kept : ∀ {k status}, E k status → E' k status
  committed : ∀ k, E' k .committed
  finalized : ∀ {id m outcome}, x = .step id (.finalized (.ok outcome)) →
    t.monitors.get? id = some m → E' m.key (statusAfter outcome)
  judged : ∀ {id m r}, x = .step id (.answered (.ok (some r))) → t.monitors.get? id = some m →
    E m.key .approved → E' m.key (statusOfVerdict r.verified)

/-- There is evidence for the status of all that is stored, and that what is polled for was approved. -/
structure Evident (E : Account × TransactionHash → SubmissionStatus → Prop) (t : Tracker) : Prop where
  stored : ∀ {a ss s}, t.store.contents a = .ok ss → s ∈ ss → E (a, s.hash) s.status
  polled : ∀ {id m}, t.monitors.get? id = some m → m.phase.expects = some .approved →
    E m.key .approved

lemma Evident.mono (ht : t.Evident E) (h : ∀ {k status}, E k status → E' k status) : t.Evident E' :=
  ⟨fun hss hs => h (ht.stored hss hs), fun hm hpolls => h (ht.polled hm hpolls)⟩

/-- What tells a monitor to move its submission is evidence for its new status. -/
lemma Evident.of_isTold (ht : t.Evident E) (hrecords : Records t (.step id event) E E')
    (hm : t.monitors.get? id = some m) {next : SubmissionStatus} (htold : m.IsTold event next) :
    E' m.key next := by
  cases htold with
  | finalized outcome => exact hrecords.finalized rfl hm
  | judged hpolls r => exact hrecords.judged rfl hm (ht.polled hm hpolls)

/-- What is stored after a step of a monitor has its evidence. -/
lemma Evident.step_stored (ht : t.Evident E) (hstep : t.step id event = some t')
    (hrecords : Records t (.step id event) E E') {ss' : List Submission} {s : Submission}
    (hss' : t'.store.contents a = .ok ss') (hs : s ∈ ss') : E' (a, s.hash) s.status := by
  obtain ⟨m, t₁, m', hm, hturn, rfl⟩ := step_cases hstep
  rcases hturn.contents_isTold a with hsame | ⟨rfl, next, htold, ss, ss₁, hss, hmove, hss₁⟩
  · exact hrecords.kept (ht.stored (hsame ▸ hss') hs)
  · obtain rfl : ss' = ss₁ := Except.ok.inj (hss'.symm.trans hss₁)
    rcases mem_of_moveFirst hmove hs with hold | ⟨hash, hstatus⟩
    · exact hrecords.kept (ht.stored hss hold)
    · rw [hash, hstatus]
      exact ht.of_isTold hrecords hm htold

/-- What is stored after an event has its evidence. -/
lemma Evident.act_stored (ht : t.Evident E) (hact : t.act x = some t') (hrecords : Records t x E E')
    {ss' : List Submission} {s : Submission} (hss' : t'.store.contents a = .ok ss') (hs : s ∈ ss') :
    E' (a, s.hash) s.status := by
  rcases act_contents hact a with hsame | ⟨-, ss, ss₁, hss, hss₁, hw⟩
  · exact hrecords.kept (ht.stored (hsame ▸ hss') hs)
  · cases hw with
    | moved _ _ _ _ => exact ht.step_stored hact hrecords hss' hs
    | added _ =>
        rw [hss', Except.ok.injEq] at hss₁
        subst hss₁
        rcases List.mem_append.mp hs with hold | hnew
        · exact hrecords.kept (ht.stored hss hold)
        · rw [List.mem_singleton.mp hnew]
          exact hrecords.committed _

/-- What is polled for after an event was approved. -/
lemma Evident.act_polled (ht : t.Evident E) (hact : t.act x = some t') (hrecords : Records t x E E')
    (hm : t'.monitors.get? id = some m) (hpolls : m.phase.expects = some .approved) :
    E' m.key .approved := by
  cases act_becomes hact hm with
  | kept hm _ => exact hrecords.kept (ht.polled hm hpolls)
  | started _ _ _ _ _ => cases hpolls
  | killed _ _ => cases hpolls
  | @turned event _ n _ hn _ =>
      obtain ⟨t₁, m', hturn, rfl⟩ := turns_of_step hn hact
      rw [get?_place_monitors, if_pos rfl, Option.some.injEq] at hm
      subst hm
      rw [hturn.same.key]
      rcases hturn.seesApproved hpolls with hbefore | ⟨ss, s, hss, hs, hash, happroved⟩
      · exact hrecords.kept (ht.polled hn hbefore)
      · have hstored := ht.act_stored hact hrecords hss hs
        rwa [hash, happroved] at hstored

/-- Evidence is carried over an event. -/
theorem Evident.act (ht : t.Evident E) (hact : t.act x = some t') (hrecords : Records t x E E') :
    t'.Evident E' :=
  ⟨fun hss hs => ht.act_stored hact hrecords hss hs, fun hm hpolls => ht.act_polled hact hrecords hm hpolls⟩

end Evidence

/-- A tracker that has nothing to do and nothing stored needs no evidence. -/
lemma evident_empty {settings : TrackerSettings} {store : SubmissionStore}
    (hempty : ∀ a, store.contents a = .ok []) (E : Account × TransactionHash → SubmissionStatus → Prop) :
    (Tracker.empty settings store).Evident E where
  stored := by
    intro a ss s hss hs
    have hstore : (Tracker.empty settings store).store.contents a = .ok [] := hempty a
    rw [hstore, Except.ok.injEq] at hss
    subst hss
    cases hs
  polled := fun hm _ => by cases hm

/-! ### The evidence of a run -/

/-- What has to happen in a run for a submission to have a status. For all but the first, a monitor of it
was told how its transaction was finalized; for a verdict, a poll of a monitor of it got this verdict after
the submission had come to be approved. -/
inductive Earned (t₀ : Tracker) (k : Account × TransactionHash) :
    List TrackerAction → SubmissionStatus → Prop where
  | committed {xs : List TrackerAction} : Earned t₀ k xs .committed
  | finalized {us vs : List TrackerAction} {u : Tracker} {id : ℕ} {m : Monitor}
      {outcome : TransactionOutcome} (hu : t₀.run us = some u) (hm : u.monitors.get? id = some m)
      (hkey : m.key = k) :
      Earned t₀ k (us ++ .step id (.finalized (.ok outcome)) :: vs) (statusAfter outcome)
  | judged {us vs : List TrackerAction} {u : Tracker} {id : ℕ} {m : Monitor} {r : SubmissionRecord}
      (happroved : Earned t₀ k us .approved) (hu : t₀.run us = some u)
      (hm : u.monitors.get? id = some m) (hkey : m.key = k) :
      Earned t₀ k (us ++ .step id (.answered (.ok (some r))) :: vs) (statusOfVerdict r.verified)

lemma Earned.append {t₀ : Tracker} {k : Account × TransactionHash} {xs : List TrackerAction}
    {status : SubmissionStatus} (h : Earned t₀ k xs status) (ys : List TrackerAction) :
    Earned t₀ k (xs ++ ys) status := by
  cases h with
  | committed => exact .committed
  | finalized hu hm hkey =>
      rw [List.append_assoc, List.cons_append]
      exact .finalized hu hm hkey
  | judged happroved hu hm hkey =>
      rw [List.append_assoc, List.cons_append]
      exact .judged happroved hu hm hkey

/-- The next event of a run leaves the evidence behind that it has to. -/
lemma records_earned {t₀ : Tracker} {us : List TrackerAction} (hu : t₀.run us = some t) (x : TrackerAction) :
    Records t x (fun k => Earned t₀ k us) (fun k => Earned t₀ k (us ++ [x])) where
  kept := fun h => h.append [x]
  committed := fun _ => .committed
  finalized := by
    rintro id m outcome rfl hm
    exact .finalized hu hm rfl
  judged := by
    rintro id m r rfl hm happroved
    exact .judged happroved hu hm rfl

/-- Everything that is stored after a run has earned its status in it. -/
theorem run_earned {t₀ : Tracker} (h₀ : ∀ E, t₀.Evident E) {xs : List TrackerAction}
    (h : t₀.run xs = some t) : t.Evident fun k => Earned t₀ k xs := by
  induction xs using List.reverseRecOn generalizing t with
  | nil =>
      cases h
      exact h₀ _
  | append_singleton us x ih =>
      rw [run_append] at h
      obtain ⟨u, hu, hx⟩ := Option.bind_eq_some_iff.mp h
      obtain ⟨t₁, hact, ht₁⟩ := Option.bind_eq_some_iff.mp hx
      cases ht₁
      exact (ih hu).act hact (records_earned hu x)

end Tracker

end ChainElection
