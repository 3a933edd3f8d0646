import Mathlib.Logic.Relation
import Mathlib.Tactic
import ChainElection.Monitor.Tracker

/-!
Histories of submissions: how the list of an account may change as time goes by.

* `SubmissionStatus.Leads` is a path of legal steps; `Leads.eq_of_isFinal`: no
  path leaves a status at the end of the way.
* `Submission.Advances` compares a submission with itself at a later time, and
  `Submission.Grows` an account's whole list: entries keep their places and only
  advance, and new ones come behind them.
* `Submission.Changes` is what one write may do to a list. `Changes.grows` and
  `Changes.distinct` say what it keeps, `Tracker.moveFirst_cases` that moving a
  submission is such a change.
* `Submission.Shows` says of a write which submission has got which status by
  it, and that this is all that can be seen in the statuses.
-/

namespace ChainElection

/-! ### Paths of statuses -/

namespace SubmissionStatus

/-- One status is reached from another by legal steps, possibly none. -/
def Leads : SubmissionStatus → SubmissionStatus → Prop :=
  Relation.ReflTransGen fun x y => x.canBecome y = true

lemma Leads.refl (x : SubmissionStatus) : Leads x x := Relation.ReflTransGen.refl

lemma Leads.trans {x y z : SubmissionStatus} (h : Leads x y) (h' : Leads y z) : Leads x z :=
  Relation.ReflTransGen.trans h h'

lemma Leads.of_canBecome {x y : SubmissionStatus} (h : x.canBecome y = true) : Leads x y :=
  Relation.ReflTransGen.single h

/-- Nothing follows on a status at the end of the way. -/
lemma canBecome_of_isFinal {x : SubmissionStatus} (hx : x.isFinal = true)
    (y : SubmissionStatus) : x.canBecome y = false := by
  cases x <;> cases y <;> first | rfl | cases hx

/-- No path leaves a status at the end of the way. -/
lemma Leads.eq_of_isFinal {x y : SubmissionStatus} (h : Leads x y) (hx : x.isFinal = true) :
    y = x := by
  rcases Relation.ReflTransGen.cases_head h with rfl | ⟨z, hz, -⟩
  · rfl
  · rw [canBecome_of_isFinal hx z] at hz
    cases hz

end SubmissionStatus

/-! ### Lists at a later time -/

namespace Submission

/-- The second submission is the first one at a later time. -/
structure Advances (s s' : Submission) : Prop where
  hash : s'.hash = s.hash
  submittedAt : s'.submittedAt = s.submittedAt
  status : s.status.Leads s'.status

lemma Advances.refl (s : Submission) : s.Advances s :=
  ⟨rfl, rfl, .refl _⟩

lemma Advances.trans {s s' s'' : Submission} (h : s.Advances s') (h' : s'.Advances s'') :
    s.Advances s'' :=
  ⟨h'.hash.trans h.hash, h'.submittedAt.trans h.submittedAt, h.status.trans h'.status⟩

/-- A submission at the end of its way stays what it is. -/
lemma Advances.eq_of_isFinal {s s' : Submission} (h : s.Advances s')
    (hs : s.status.isFinal = true) : s' = s := by
  have hstatus := h.status.eq_of_isFinal hs
  cases s
  cases s'
  cases h.hash
  cases h.submittedAt
  cases hstatus
  rfl

/-- The second list is the first one at a later time: every entry is still in its place and has only
advanced. -/
def Grows (ss ss' : List Submission) : Prop :=
  ∀ (i : Nat) (s : Submission), ss[i]? = some s → ∃ s', ss'[i]? = some s' ∧ s.Advances s'

lemma Grows.refl (ss : List Submission) : Grows ss ss :=
  fun _ s hs => ⟨s, hs, .refl s⟩

lemma Grows.trans {ss ss' ss'' : List Submission} (h : Grows ss ss') (h' : Grows ss' ss'') :
    Grows ss ss'' := by
  intro i s hs
  obtain ⟨s', hs', hadv⟩ := h i s hs
  obtain ⟨s'', hs'', hadv'⟩ := h' i s' hs'
  exact ⟨s'', hs'', hadv.trans hadv'⟩

/-- The hashes of a list, in order. -/
def hashes (ss : List Submission) : List TransactionHash := ss.map Submission.hash

/-- No two entries are for the same transaction. -/
def Distinct (ss : List Submission) : Prop := (hashes ss).Nodup

@[simp] lemma hashes_append (ss ss' : List Submission) :
    hashes (ss ++ ss') = hashes ss ++ hashes ss' := List.map_append

@[simp] lemma hashes_cons (s : Submission) (ss : List Submission) :
    hashes (s :: ss) = s.hash :: hashes ss := rfl

/-- What stands in a list stands in it at a later time. -/
lemma Grows.mem_hashes {ss ss' : List Submission} (hgrows : Grows ss ss') {h : TransactionHash}
    (hmem : h ∈ hashes ss) : h ∈ hashes ss' := by
  obtain ⟨s, hs, rfl⟩ := List.mem_map.mp hmem
  obtain ⟨i, hi⟩ := List.mem_iff_getElem?.mp hs
  obtain ⟨s', hs', hadvances⟩ := hgrows i s hi
  exact hadvances.hash ▸ List.mem_map_of_mem (List.mem_of_getElem? hs')

/-- The status of the first entry of a hash. -/
def statusIn (ss : List Submission) (h : TransactionHash) : Option SubmissionStatus :=
  (ss.find? fun s => s.hash == h).map Submission.status

lemma statusIn_cons_self (s : Submission) (ss : List Submission) :
    statusIn (s :: ss) s.hash = some s.status := by
  simp [statusIn]

lemma statusIn_cons_of_ne {s : Submission} {h : TransactionHash} (hne : s.hash ≠ h)
    (ss : List Submission) : statusIn (s :: ss) h = statusIn ss h := by
  rw [statusIn, statusIn, List.find?_cons_of_neg (by simpa using hne)]

/-- Hashes that do not stand in front of an entry do not matter for its status. -/
lemma statusIn_append_of_notMem {pre : List Submission} {h : TransactionHash}
    (hpre : h ∉ hashes pre) (ss : List Submission) : statusIn (pre ++ ss) h = statusIn ss h := by
  induction pre with
  | nil => rfl
  | cons s pre ih =>
      rw [hashes_cons, List.mem_cons, not_or] at hpre
      rw [List.cons_append, statusIn_cons_of_ne (Ne.symm hpre.1), ih hpre.2]

/-- What comes behind a list does not matter for the status of its entries. -/
lemma statusIn_append_of_some {ss : List Submission} {h : TransactionHash} {status : SubmissionStatus}
    (hs : statusIn ss h = some status) (ss' : List Submission) :
    statusIn (ss ++ ss') h = some status := by
  obtain ⟨s, hfind, rfl⟩ := Option.map_eq_some_iff.mp hs
  rw [statusIn, List.find?_append, hfind, Option.some_or, Option.map_some]

/-- The status of a hash does not depend on those of other hashes. -/
lemma statusIn_of_moved {pre post : List Submission} {s : Submission} {h : TransactionHash}
    (hne : s.hash ≠ h) (next : SubmissionStatus) :
    statusIn (pre ++ { s with status := next } :: post) h = statusIn (pre ++ s :: post) h := by
  induction pre with
  | nil =>
      have hne' : ({ s with status := next } : Submission).hash ≠ h := hne
      rw [List.nil_append, List.nil_append, statusIn_cons_of_ne hne', statusIn_cons_of_ne hne]
  | cons p pre ih =>
      by_cases hp : p.hash = h
      · subst hp
        rw [List.cons_append, List.cons_append, statusIn_cons_self, statusIn_cons_self]
      · rw [List.cons_append, List.cons_append, statusIn_cons_of_ne hp, statusIn_cons_of_ne hp, ih]

/-- A hash has no status if it does not stand in the list. -/
lemma statusIn_of_notMem {ss : List Submission} {h : TransactionHash} (hnot : h ∉ hashes ss) :
    statusIn ss h = none := by
  have hnil := statusIn_append_of_notMem hnot []
  rwa [List.append_nil] at hnil

/-- In a list of distinct hashes every entry's status is that of its hash. -/
lemma statusIn_of_mem {ss : List Submission} (hd : Distinct ss) {s : Submission} (hs : s ∈ ss) :
    statusIn ss s.hash = some s.status := by
  obtain ⟨pre, post, rfl⟩ := List.append_of_mem hs
  have hpre : s.hash ∉ hashes pre := by
    intro hmem
    rw [Distinct, hashes_append, hashes_cons] at hd
    exact (List.nodup_append.mp hd).2.2 _ hmem _ (by simp) rfl
  rw [statusIn_append_of_notMem hpre, statusIn_cons_self]

/-! ### One write -/

/-- What a write may make of a list: a fresh submission comes behind the others, or one entry takes one
legal step. -/
inductive Changes : List Submission → List Submission → Prop where
  | added {ss : List Submission} {h : TransactionHash} (now : ClockTime) (hnew : h ∉ hashes ss) :
      Changes ss (ss ++ [fresh h now])
  | moved {pre post : List Submission} {s : Submission} {next : SubmissionStatus}
      (hfirst : s.hash ∉ hashes pre) (hlegal : s.status.canBecome next = true) :
      Changes (pre ++ s :: post) (pre ++ { s with status := next } :: post)

/-- A write lets a list grow. -/
lemma Changes.grows {ss ss' : List Submission} (h : Changes ss ss') : Grows ss ss' := by
  cases h with
  | added now hnew =>
      intro i s hs
      exact ⟨s, by rw [List.getElem?_append_left (List.getElem?_eq_some_iff.mp hs).1, hs], .refl s⟩
  | @moved pre post s next _ hlegal =>
      intro i s₀ hs
      rcases Nat.lt_trichotomy i pre.length with hi | rfl | hi
      · rw [List.getElem?_append_left hi] at hs
        exact ⟨s₀, by rw [List.getElem?_append_left hi, hs], .refl s₀⟩
      · rw [List.getElem?_append_right le_rfl, Nat.sub_self] at hs
        cases hs
        refine ⟨{ s with status := next }, ?_, rfl, rfl, .of_canBecome hlegal⟩
        rw [List.getElem?_append_right le_rfl, Nat.sub_self]
        rfl
      · obtain ⟨k, hk⟩ : ∃ k, i - pre.length = k + 1 := ⟨i - pre.length - 1, by omega⟩
        rw [List.getElem?_append_right hi.le, hk] at hs
        exact ⟨s₀, by rw [List.getElem?_append_right hi.le, hk]; exact hs, .refl s₀⟩

/-- A write keeps the hashes distinct. -/
lemma Changes.distinct {ss ss' : List Submission} (h : Changes ss ss') (hd : Distinct ss) :
    Distinct ss' := by
  cases h with
  | added now hnew =>
      rw [Distinct, hashes_append]
      refine List.nodup_append.mpr ⟨hd, by simp [hashes], ?_⟩
      rintro x hx y hy rfl
      rw [List.mem_singleton.mp hy] at hx
      exact hnew hx
  | moved _ _ =>
      rw [Distinct, hashes_append, hashes_cons] at hd ⊢
      exact hd

/-- A write has given a submission a status, which is the first one or a legal step away from the one
before, and has left the statuses of all others alone. -/
structure Shows (ss ss' : List Submission) (h : TransactionHash) (status : SubmissionStatus) : Prop where
  now : statusIn ss' h = some status
  others : ∀ {h'}, h' ≠ h → statusIn ss' h' = statusIn ss h'
  before : statusIn ss h = none ∧ status = .committed ∨
    ∃ old, statusIn ss h = some old ∧ old.canBecome status = true

lemma shows_added {ss : List Submission} {h : TransactionHash} (now : ClockTime) (hnew : h ∉ hashes ss) :
    Shows ss (ss ++ [fresh h now]) h .committed where
  now := by
    rw [statusIn_append_of_notMem hnew]
    exact statusIn_cons_self (fresh h now) []
  others := by
    intro h' hne
    have hne' : (fresh h now).hash ≠ h' := Ne.symm hne
    cases hs : statusIn ss h' with
    | some status => rw [statusIn_append_of_some hs]
    | none =>
        rw [statusIn, Option.map_eq_none_iff] at hs
        simp [statusIn, List.find?_append, hs, hne']
  before := .inl ⟨statusIn_of_notMem hnew, rfl⟩

lemma shows_moved {pre post : List Submission} {s : Submission} {next : SubmissionStatus}
    (hfirst : s.hash ∉ hashes pre) (hlegal : s.status.canBecome next = true) :
    Shows (pre ++ s :: post) (pre ++ { s with status := next } :: post) s.hash next where
  now := by
    rw [statusIn_append_of_notMem hfirst]
    exact statusIn_cons_self { s with status := next } post
  others := fun hne => statusIn_of_moved (Ne.symm hne) next
  before := .inr ⟨s.status, by rw [statusIn_append_of_notMem hfirst, statusIn_cons_self], hlegal⟩

/-- What a write shows is new. -/
lemma Shows.ne {ss ss' : List Submission} {h : TransactionHash} {status : SubmissionStatus}
    (hshows : Shows ss ss' h status) : statusIn ss' h ≠ statusIn ss h := by
  rw [hshows.now]
  rcases hshows.before with ⟨hnone, -⟩ | ⟨old, hold, hlegal⟩
  · rw [hnone]
    exact nofun
  · rw [hold]
    rintro ⟨⟩
    cases status <;> cases hlegal

end Submission

/-! ### Moving a submission -/

namespace Tracker

open Submission

/-- Moving a submission that is stored takes one legal step with it and leaves the others as they are. -/
lemma moveFirst_cases {h : TransactionHash} {next : SubmissionStatus} {ss ss' : List Submission}
    (hm : moveFirst h next ss = some (.ok ss')) :
    ∃ pre s post, ss = pre ++ s :: post ∧ s.hash = h ∧ h ∉ hashes pre ∧
      s.status.canBecome next = true ∧ ss' = pre ++ { s with status := next } :: post := by
  induction ss generalizing ss' with
  | nil => cases hm
  | cons s r ih =>
      rw [moveFirst] at hm
      split at hm
      · rename_i hs
        rw [move] at hm
        split at hm
        · rename_i s' hmove
          split at hmove
          · rename_i hlegal
            cases hmove
            cases hm
            exact ⟨[], s, r, rfl, hs, by simp [hashes], hlegal, rfl⟩
          · cases hmove
        · cases hm
      · rename_i hs
        obtain ⟨x, hx, hxs⟩ := Option.map_eq_some_iff.mp hm
        cases x with
        | error e => cases hxs
        | ok r' =>
            cases hxs
            obtain ⟨pre, s₀, post, rfl, hh, hpre, hlegal, rfl⟩ := ih hx
            refine ⟨s :: pre, s₀, post, rfl, hh, ?_, hlegal, rfl⟩
            rw [hashes_cons, List.mem_cons, not_or]
            exact ⟨Ne.symm hs, hpre⟩

/-- Moving a submission changes the list by one legal step. -/
lemma moveFirst_changes {h : TransactionHash} {next : SubmissionStatus} {ss ss' : List Submission}
    (hm : moveFirst h next ss = some (.ok ss')) : Changes ss ss' := by
  obtain ⟨pre, s, post, rfl, rfl, hpre, hlegal, rfl⟩ := moveFirst_cases hm
  exact .moved hpre hlegal

/-- An entry after a submission was moved was there before, or it is the one that was moved. -/
lemma mem_of_moveFirst {h : TransactionHash} {next : SubmissionStatus} {ss ss' : List Submission}
    (hm : moveFirst h next ss = some (.ok ss')) {s : Submission} (hs : s ∈ ss') :
    s ∈ ss ∨ s.hash = h ∧ s.status = next := by
  obtain ⟨pre, s₀, post, rfl, rfl, -, -, rfl⟩ := moveFirst_cases hm
  simp only [List.mem_append, List.mem_cons] at hs ⊢
  rcases hs with hs | rfl | hs
  · exact .inl (.inl hs)
  · exact .inr ⟨rfl, rfl⟩
  · exact .inl (.inr (.inr hs))

/-- A submission can be moved if its status allows it. -/
lemma moveFirst_of_statusIn {h : TransactionHash} {status next : SubmissionStatus}
    {ss : List Submission} (hs : statusIn ss h = some status) (hlegal : status.canBecome next = true) :
    ∃ ss', moveFirst h next ss = some (.ok ss') := by
  induction ss with
  | nil => cases hs
  | cons s r ih =>
      by_cases hh : s.hash = h
      · subst hh
        rw [statusIn_cons_self, Option.some.injEq] at hs
        subst hs
        exact ⟨{ s with status := next } :: r, by simp [moveFirst, move, hlegal]⟩
      · rw [statusIn_cons_of_ne hh] at hs
        obtain ⟨r', hmove⟩ := ih hs
        exact ⟨s :: r', by simp [moveFirst, hh, hmove, Except.map]⟩

/-! ### Pending submissions -/

/-- In a list of distinct hashes, a submission is pending if its status is not the end of the way. -/
lemma mem_pending_iff {ss : List Submission} (hd : Distinct ss) {h : TransactionHash} :
    h ∈ pending ss ↔ ∃ status, statusIn ss h = some status ∧ status.isFinal = false := by
  simp only [pending, List.mem_map, List.mem_filter, Bool.not_eq_true']
  constructor
  · rintro ⟨s, ⟨hs, hfinal⟩, rfl⟩
    exact ⟨s.status, statusIn_of_mem hd hs, hfinal⟩
  · rintro ⟨status, hstatus, hfinal⟩
    obtain ⟨s, hs, rfl⟩ := Option.map_eq_some_iff.mp hstatus
    exact ⟨s, ⟨List.mem_of_find?_eq_some hs, hfinal⟩, by simpa using List.find?_some hs⟩

lemma mem_pending_added {ss : List Submission} {h h' : TransactionHash} {now : ClockTime}
    (hh : h ∈ pending (ss ++ [fresh h' now])) : h ∈ pending ss ∨ h = h' := by
  simp only [pending, List.filter_append, List.map_append, List.mem_append] at hh
  refine hh.imp_right fun hh => ?_
  simpa [fresh, SubmissionStatus.isFinal] using hh

/-- A submission that is pending after a legal step was pending before. -/
lemma mem_pending_moved {pre post : List Submission} {s : Submission} {next : SubmissionStatus}
    (hlegal : s.status.canBecome next = true) {h : TransactionHash}
    (hh : h ∈ pending (pre ++ { s with status := next } :: post)) :
    h ∈ pending (pre ++ s :: post) := by
  simp only [pending, List.filter_append, List.map_append, List.mem_append, List.mem_map,
    List.mem_filter, List.mem_cons, Bool.not_eq_true'] at hh ⊢
  rcases hh with hh | ⟨s', ⟨rfl | hs', hfinal⟩, rfl⟩
  · exact .inl hh
  · refine .inr ⟨s, ⟨.inl rfl, ?_⟩, rfl⟩
    by_contra hf
    rw [Bool.not_eq_false] at hf
    rw [SubmissionStatus.canBecome_of_isFinal hf next] at hlegal
    cases hlegal
  · exact .inr ⟨s', ⟨.inr hs', hfinal⟩, rfl⟩

end Tracker

end ChainElection
