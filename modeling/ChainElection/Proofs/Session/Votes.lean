import Mathlib.Tactic
import ChainElection.Proofs.Monitor.Watch
import ChainElection.Proofs.Session.Guards

/-!
A vote stays with the wallet under which it was started.

The connection may be replaced, ended and made again while a vote waits. The
vote has taken along the connection that it was started under, and comes to its
end with that.

* `Session.Remaining`: what a vote can still ask for, by its phase;
  `Sound.remaining` says it of a run.
* `Session.Takes`: a vote that has been started holds its connection until it
  ends; `Takes.act` carries it over an event.
* `Session.Booked` is what holds once a vote has returned a hash: it is stored
  for the account, and watched as long as the account has guards; what was
  started for it without guards stops, and a later connection starts it again.
* `vote_stays_with_its_wallet` puts all of this together.
-/

namespace ChainElection.Session

open Submission

variable {s s' : Session} {id : ℕ} {v : Vote} {b : Ballot} {c : Connection} {x : SessionAction}
  {event : VoteEvent} {now : ClockTime} {a : Account} {h : TransactionHash} {started : Option ℕ}

/-! ### What a vote asks for -/

/-- What a vote that has been started can still ask of the node and of wallets: if its dry run is still
on its way, one payload goes to the wallet of its connection, or none; otherwise nothing. -/
inductive Remaining (contract : ElectionContract) (b : Ballot) :
    VotePhase → List InvokeRequest → List (ℕ × UpdatePayload) → Prop where
  | nothing {phase : VotePhase} (hphase : phase ≠ .ready) : Remaining contract b phase [] []
  | payload {c : Connection} (energy : Energy) :
      Remaining contract b (.dryRunning c) [] [(c.wallet, contract.payload b energy)]

/-- Once a vote has gone past its dry run it asks for nothing any more. -/
lemma Remaining.eq_nil {contract : ElectionContract} {phase : VotePhase} {rs : List InvokeRequest}
    {ps : List (ℕ × UpdatePayload)} (h : Remaining contract b phase rs ps)
    (hphase : ∀ c, phase ≠ .dryRunning c) : rs = [] ∧ ps = [] := by
  cases h with
  | nothing _ => exact ⟨rfl, rfl⟩
  | payload _ => exact absurd rfl (hphase _)

/-- Only a dry run that succeeds leads to a payload. -/
lemma afterDryRun_eq_ok {contract : ElectionContract} {answer : Except ClientError InvokeResult}
    {p : UpdatePayload} (h : contract.afterDryRun b answer = .ok p) :
    ∃ energy value, answer = .ok (.success energy value) ∧ p = contract.payload b energy := by
  cases answer with
  | error e => cases h
  | ok r =>
      cases r with
      | failure _ _ => cases h
      | success energy value =>
          cases h
          exact ⟨energy, value, rfl, rfl⟩

/-- A session keeps its contract. -/
lemma act_contract (hact : s.act x = some s') : s'.contract = s.contract := by
  cases x with
  | connect wallet a =>
      cases hact
      rw [connect_eq]
  | disconnect =>
      cases hact
      rw [disconnect, reconnect_eq]
  | refresh =>
      cases hact
      rfl
  | endRefresh k answer => rw [endRefresh_cases hact]
  | cast b =>
      cases hact
      rfl
  | vote k event now =>
      obtain ⟨v, -, hturns⟩ := stepVote_cases hact
      obtain ⟨phase, heq⟩ := hturns.moves.eq
      rw [heq]
  | track y =>
      rw [act] at hact
      split at hact
      · obtain ⟨t, -, rfl⟩ := Option.map_eq_some_iff.mp hact
        rfl
      · cases hact

/-- What a vote asks for when it goes on comes before what remains. -/
lemma VoteMoves.remaining {phase : VotePhase} (hmoves : VoteMoves s id ⟨b, phase⟩ s')
    (hphase : phase ≠ .ready) {rs : List InvokeRequest} {ps : List (ℕ × UpdatePayload)}
    (hrest : ∀ phase', s'.votes.get? id = some ⟨b, phase'⟩ → phase' ≠ .ready →
      Remaining s.contract b phase' rs ps) :
    Remaining s.contract b phase (s'.invoked.drop s.invoked.length ++ rs)
      (s'.sent.drop s.sent.length ++ ps) := by
  cases hmoves with
  | refused hready _ => exact absurd hready hphase
  | asked hready _ => exact absurd hready hphase
  | @handedOver c answer p hdry hanswer =>
      obtain ⟨rfl, rfl⟩ := (hrest (.signing c) (Table.get?_set_self ..) nofun).eq_nil nofun
      obtain ⟨energy, -, -, rfl⟩ := afterDryRun_eq_ok hanswer
      obtain rfl : phase = .dryRunning c := hdry
      have hinvoked : s.invoked.drop s.invoked.length = [] := List.drop_length
      have hsent : (s.sent ++ [(c.wallet, s.contract.payload b energy)]).drop s.sent.length =
          [(c.wallet, s.contract.payload b energy)] := List.drop_left
      simp only [goTo, hinvoked, hsent, List.append_nil]
      exact .payload energy
  | @ended c t _ _ r =>
      obtain ⟨rfl, rfl⟩ := (hrest (.ended r) (by rw [endVote_eq, Table.get?_set_self])
        nofun).eq_nil nofun
      rw [endVote_eq]
      simp only [List.drop_length, List.append_nil]
      exact .nothing hphase

lemma eq_vote_of_isOfVote (hx : x.isOfVote id = true) : ∃ event now, x = .vote id event now := by
  cases x with
  | vote k event now =>
      obtain rfl : k = id := eq_of_beq hx
      exact ⟨event, now, rfl⟩
  | _ => cases hx

lemma ne_vote_of_isOfVote (hx : x.isOfVote id = false) (event : VoteEvent) (now : ClockTime) :
    x ≠ .vote id event now := by
  rintro rfl
  rw [SessionAction.isOfVote, beq_self_eq_true] at hx
  cases hx

/-- An event that lets the vote go on comes with what it asks for then. -/
lemma calls_of_vote (hact : s.act (.vote id event now) = some s') (xs : List SessionAction) :
    s.invokedBy id (.vote id event now :: xs) =
        s'.invoked.drop s.invoked.length ++ s'.invokedBy id xs ∧
      s.sentBy id (.vote id event now :: xs) = s'.sent.drop s.sent.length ++ s'.sentBy id xs := by
  have hx : (SessionAction.vote id event now).isOfVote id = true := beq_self_eq_true id
  simp [invokedBy, sentBy, hact, hx]

/-- Other events do not. -/
lemma calls_of_other (hact : s.act x = some s') (hx : x.isOfVote id = false)
    (xs : List SessionAction) :
    s.invokedBy id (x :: xs) = s'.invokedBy id xs ∧ s.sentBy id (x :: xs) = s'.sentBy id xs := by
  simp [invokedBy, sentBy, hact, hx]

/-- What a vote that has been started asks for in a run. -/
lemma Sound.remaining (hs : s.Sound) {phase : VotePhase} (hv : s.votes.get? id = some ⟨b, phase⟩)
    (hphase : phase ≠ .ready) (xs : List SessionAction) :
    Remaining s.contract b phase (s.invokedBy id xs) (s.sentBy id xs) := by
  induction xs generalizing s phase with
  | nil => exact .nothing hphase
  | cons x r ih =>
      cases hact : s.act x with
      | none =>
          simp only [invokedBy, sentBy, hact]
          exact .nothing hphase
      | some s₁ =>
          have hcontract := act_contract hact
          cases hx : x.isOfVote id with
          | false =>
              have hv₁ := (act_votes hact (hs.vote_lt hv) (ne_vote_of_isOfVote hx)).trans hv
              obtain ⟨hinvoked, hsent⟩ := calls_of_other hact hx r
              rw [hinvoked, hsent, ← hcontract]
              exact ih (hs.act hact) hv₁ hphase
          | true =>
              obtain ⟨event, now, rfl⟩ := eq_vote_of_isOfVote hx
              obtain ⟨v, hv', hturns⟩ := stepVote_cases hact
              obtain rfl : v = ⟨b, phase⟩ := Option.some.inj (hv'.symm.trans hv)
              obtain ⟨hinvoked, hsent⟩ := calls_of_vote hact r
              rw [hinvoked, hsent]
              exact hturns.moves.remaining hphase fun phase' hv₁ hphase' =>
                hcontract ▸ ih (hs.act hact) hv₁ hphase'

/-- What a vote asks for from its start on: at most one dry run, for the account of the connection, and
at most one signature of its wallet. -/
lemma Sound.calls_of_start (hs : s.Sound) (hv : s.votes.get? id = some ⟨b, .ready⟩)
    (hc : s.connection = some c) (hact : s.act (.vote id .start now) = some s')
    (xs : List SessionAction) :
    (s.invokedBy id (.vote id .start now :: xs) = [] ∨
      s.invokedBy id (.vote id .start now :: xs) = [s.contract.dryRun b c.account]) ∧
    (s.sentBy id (.vote id .start now :: xs) = [] ∨
      ∃ energy, s.sentBy id (.vote id .start now :: xs) =
        [(c.wallet, s.contract.payload b energy)]) := by
  have hs' := hs.act hact
  obtain ⟨hinvoked, hsent⟩ := calls_of_vote hact xs
  rw [hinvoked, hsent]
  obtain ⟨v, hv', hturns⟩ := stepVote_cases hact
  obtain rfl : v = ⟨b, .ready⟩ := Option.some.inj (hv'.symm.trans hv)
  have hnothing : s.sent.drop s.sent.length = [] := List.drop_length
  cases hturns with
  | unconnected _ hnone =>
      rw [hc] at hnone
      cases hnone
  | @refused c' e _ _ _ =>
      have hrest := hs'.remaining (Table.get?_set_self ..) (nofun : VotePhase.ended (.error e) ≠ .ready) xs
      obtain ⟨hinvoked, hsent⟩ := hrest.eq_nil nofun
      rw [hinvoked, hsent, List.append_nil, List.append_nil]
      exact ⟨.inl List.drop_length, .inl hnothing⟩
  | @asked c' _ hc' _ =>
      obtain rfl : c = c' := Option.some.inj (hc.symm.trans hc')
      have hrest := hs'.remaining (Table.get?_set_self ..) (nofun : VotePhase.dryRunning c ≠ .ready) xs
      generalize Session.invokedBy id _ xs = rs at hrest ⊢
      generalize Session.sentBy id _ xs = ps at hrest ⊢
      have hcall : (s.invoked ++ [s.contract.dryRun b c.account]).drop s.invoked.length =
          [s.contract.dryRun b c.account] := List.drop_left
      cases hrest with
      | nothing _ =>
          exact ⟨.inr ((List.append_nil _).trans hcall), .inl ((List.append_nil _).trans hnothing)⟩
      | payload energy =>
          exact ⟨.inr ((List.append_nil _).trans hcall), .inr ⟨energy, congrArg (· ++ _) hnothing⟩⟩

/-! ### What a vote holds -/

/-- The vote has been started under the connection: it holds it until it ends. -/
def Takes (s : Session) (id : ℕ) (c : Connection) : Prop :=
  ∃ v, s.votes.get? id = some v ∧ (v.connection? = some c ∨ ∃ r, v.phase = .ended r)

lemma Takes.eq {c' : Connection} (ht : s.Takes id c) (hv : s.votes.get? id = some v)
    (hc : v.connection? = some c') : c' = c := by
  obtain ⟨v', hv', hphase⟩ := ht
  obtain rfl : v' = v := Option.some.inj (hv'.symm.trans hv)
  rcases hphase with hphase | ⟨r, hr⟩
  · exact Option.some.inj (hc.symm.trans hphase)
  · rw [Vote.connection?, hr] at hc
    cases hc

/-- Whatever a vote does, it keeps its connection until it ends. -/
lemma VoteMoves.takes (hmoves : VoteMoves s id v s')
    (hv : v.connection? = some c ∨ ∃ r, v.phase = .ended r) : s'.Takes id c := by
  have hready : v.phase ≠ .ready := by
    intro hphase
    rcases hv with hv | ⟨r, hr⟩
    · rw [Vote.connection?, hphase] at hv
      cases hv
    · rw [hphase] at hr
      cases hr
  cases hmoves with
  | refused hphase _ => exact absurd hphase hready
  | asked hphase _ => exact absurd hphase hready
  | ended _ _ r => exact ⟨_, by rw [endVote_eq, Table.get?_set_self], .inr ⟨r, rfl⟩⟩
  | @handedOver c' _ _ hphase _ =>
      have hc : v.connection? = some c' := by rw [Vote.connection?, hphase]
      rcases hv with hv | ⟨r, hr⟩
      · rw [hc] at hv
        exact ⟨_, Table.get?_set_self .., .inl hv⟩
      · rw [hphase] at hr
        cases hr

/-- Nothing that happens takes its connection away from a vote. -/
lemma Takes.act (ht : s.Takes id c) (hs : s.Sound) (hact : s.act x = some s') : s'.Takes id c := by
  obtain ⟨v, hv, hphase⟩ := ht
  cases hx : x.isOfVote id with
  | false => exact ⟨v, (act_votes hact (hs.vote_lt hv) (ne_vote_of_isOfVote hx)).trans hv, hphase⟩
  | true =>
      obtain ⟨event, now, rfl⟩ := eq_vote_of_isOfVote hx
      obtain ⟨v', hv', hturns⟩ := stepVote_cases hact
      obtain rfl : v' = v := Option.some.inj (hv'.symm.trans hv)
      exact hturns.moves.takes hphase

/-- A vote that is started takes the connection with it. -/
lemma takes_of_start (hv : s.votes.get? id = some ⟨b, .ready⟩) (hc : s.connection = some c)
    (hact : s.act (.vote id .start now) = some s') : s'.Takes id c := by
  obtain ⟨v, hv', hturns⟩ := stepVote_cases hact
  obtain rfl : v = ⟨b, .ready⟩ := Option.some.inj (hv'.symm.trans hv)
  cases hturns with
  | unconnected _ hnone =>
      rw [hc] at hnone
      cases hnone
  | refused _ _ _ => exact ⟨_, Table.get?_set_self .., .inr ⟨_, rfl⟩⟩
  | asked _ hc' _ => exact ⟨_, Table.get?_set_self .., .inl (hc'.symm.trans hc)⟩

lemma Takes.run (ht : s.Takes id c) (hs : s.Sound) {xs : List SessionAction}
    (h : s.run xs = some s') : s'.Takes id c :=
  (run_induction (P := fun u => u.Sound ∧ u.Takes id c)
    (fun hact hu => ⟨hu.1.act hact, hu.2.act hu.1 hact⟩) h ⟨hs, ht⟩).2

/-! ### How a vote ends -/

/-- A vote returns a hash only when its wallet has signed and the submission has been added, under the
guard of the connection that it holds. -/
lemma Sound.recorded_of_ended (hs : s.Sound) (hv : s.votes.get? id = some v)
    (hturns : VoteTurns s id v now event s') {v' : Vote} (hv' : s'.votes.get? id = some v')
    (hended : v'.phase = .ended (.ok (h, started))) :
    ∃ c σ t, v.connection? = some c ∧ event = .signed (.ok h) ∧
      s.tracker.scopes.guards.get? c.guard = some ⟨c.account, σ⟩ ∧
      s.tracker.add ⟨c.account, σ⟩ h now = .ok (started, t) ∧
      s' = ({ s with tracker := t } : Session).endVote id v c (.ok (h, started)) := by
  have hend : ∀ {u : Session} {c : Connection} {r : VoteResult}, s' = u.endVote id v c r →
      r = .ok (h, started) := by
    rintro u c r rfl
    rw [endVote_eq, Table.get?_set_self, Option.some.injEq] at hv'
    subst hv'
    exact VotePhase.ended.inj hended
  have hgo : ∀ {phase : VotePhase}, s'.votes = s.votes.set id { v with phase := phase } →
      phase = .ended (.ok (h, started)) := by
    intro phase hvotes
    rw [hvotes, Table.get?_set_self, Option.some.injEq] at hv'
    subst hv'
    exact hended
  cases hturns with
  | unconnected _ _ => cases hgo rfl
  | refused _ _ _ => cases hgo rfl
  | asked _ _ _ => cases hgo rfl
  | handedOver _ _ => cases hgo rfl
  | stopped _ _ => cases hend rfl
  | unsigned _ => cases hend rfl
  | unrecorded _ _ _ => cases hend rfl
  | @unguarded c _ hphase hg =>
      have hc : v.connection? = some c := by rw [Vote.connection?, hphase]
      obtain ⟨σ, ⟨⟩⟩ := hs.guard_eq hv hc hg
  | @recorded c _ guard _ t hphase hg hadd =>
      have hc : v.connection? = some c := by rw [Vote.connection?, hphase]
      obtain ⟨σ, ⟨⟩⟩ := hs.guard_eq hv hc hg
      cases @hend { s with tracker := t } _ _ rfl
      exact ⟨c, σ, t, hc, rfl, hg, hadd, rfl⟩

/-- What holds from the moment on at which a vote has returned a hash, for the account that it was
started under. The submission is stored. As long as the account is connected a monitor watches it. If
the account has no guard left, the monitor that was started for it is aborted, writes nothing, and ends
with its next step. It stays stored, and whenever the account is connected again while it is pending, a
monitor is started for it, unless someone with a guard has had it watched already. -/
structure Booked (s : Session) (a : Account) (h : TransactionHash) (started : Option ℕ) : Prop where
  stored : ∃ ss, s.tracker.store.contents a = .ok ss ∧ h ∈ hashes ss
  watched : s.account = some a → ∃ i m, s.tracker.Watches i m ∧ m.key = (a, h)
  stopped : s.tracker.scopes.guardsOf a = ∅ → ∀ i, started = some i →
    ∃ m, s.tracker.monitors.get? i = some m ∧ m.key = (a, h) ∧ m.effort.writes = 0 ∧
      s.tracker.scopes.isAborted m.signal = true ∧
      ∀ zs z, s.run zs = some z →
        ∃ m', z.tracker.monitors.get? i = some m' ∧ (m' = m ∨ m.Retires m') ∧
          ∀ e t, z.tracker.step i e = some t → t.store = z.tracker.store ∧
            t.updates = z.tracker.updates ∧ ∃ m'', t.monitors.get? i = some m'' ∧ m'.Retires m''
  resumed : ∀ zs z w ms z', s.run zs = some z → z.connect w a = (.ok ms, z') →
    ∃ ss, z.tracker.store.contents a = .ok ss ∧ h ∈ hashes ss ∧
      (h ∈ Tracker.pending ss → ∃ i m, z'.tracker.Watches i m ∧ m.key = (a, h) ∧
        (i ∈ ms ∨ z.tracker.Watches i m ∧ (z.tracker.scopes.guardsOf a).Nonempty))

/-- An account that is connected has a guard. -/
lemma Sound.guardsOf_nonempty (hs : s.Sound) (ha : s.account = some a) :
    (s.tracker.scopes.guardsOf a).Nonempty := by
  obtain ⟨c, hc, rfl⟩ := Option.map_eq_some_iff.mp ha
  obtain ⟨σ, hσ⟩ := hs.guarded (.connected hc)
  exact ⟨c.guard, Scopes.mem_guardsOf.mpr ⟨_, hσ, rfl⟩⟩

/-- A submission stays watched when a guard is let go, if its account has others. -/
lemma watched_letGo {σ g : ℕ} (ht : s.tracker.Sound) (hw : s.tracker.Watched σ (a, h))
    (hleft : ((s.letGo g).tracker.scopes.guardsOf a).Nonempty) :
    (s.letGo g).tracker.Watched σ (a, h) := by
  rcases letGo_cases s g with ⟨-, heq⟩ | ⟨-, heq⟩ <;> rw [heq] at hleft ⊢
  · exact hw
  · exact ht.watched_release hw hleft

lemma watched_reconnect {σ : ℕ} {c : Option Connection} (ht : s.tracker.Sound)
    (hw : s.tracker.Watched σ (a, h))
    (hleft : ((s.reconnect c).tracker.scopes.guardsOf a).Nonempty) :
    (s.reconnect c).tracker.Watched σ (a, h) := by
  rcases reconnect_cases s c with ⟨-, heq⟩ | ⟨o, -, heq⟩ <;> rw [heq] at hleft ⊢
  · exact hw
  · exact watched_letGo (s := { s with connection := c }) ht hw hleft

/-- Connecting an account has its pending submissions watched: by a monitor that is started now, or by
one that has watched all along because the account has guards. -/
lemma Sound.connect_watches (hs : s.Sound) {w : ℕ} {ms : List ℕ} {ss : List Submission}
    (hconnect : s.connect w a = (.ok ms, s')) (hss : s.tracker.store.contents a = .ok ss)
    (hmem : h ∈ Tracker.pending ss) :
    ∃ i m, s'.tracker.Watches i m ∧ m.key = (a, h) ∧
      (i ∈ ms ∨ s.tracker.Watches i m ∧ (s.tracker.scopes.guardsOf a).Nonempty) := by
  rcases connect_cases s w a with ⟨e, -, heq⟩ | ⟨ms', t, hinit, heq⟩ <;> rw [hconnect] at heq
  · cases heq
  · obtain ⟨hms, rfl⟩ := Prod.mk.inj heq
    obtain rfl : ms = ms' := Except.ok.inj hms
    have ht := hs.tracker.acquire a
    have hg := get?_acquire_guard s a
    have hstore : t.store.contents a = .ok ss := by
      obtain ⟨ss', -, hstart⟩ := Tracker.init_eq_ok hinit
      obtain rfl := congrArg Prod.snd hstart
      rw [(Tracker.startAll_starts _ _ _ _).store]
      exact hss
    have hwatched : t.Watched (s.tracker.scopes.joined a).signal (a, h) :=
      (ht.init_watches hg hinit).2 hstore hmem
    have hs' : (Session.reconnect { s with tracker := t } _).Sound := hconnect ▸ hs.connect w a
    have haccount : (Session.reconnect { s with tracker := t }
        (some ⟨w, a, s.tracker.scopes.nextGuard⟩)).account = some a := by
      rw [account, reconnect_eq]
      rfl
    obtain ⟨i, m, hm, hkey, -⟩ := watched_reconnect (s := { s with tracker := t })
      (ht.act (Tracker.act_init hg hinit)) hwatched (hs'.guardsOf_nonempty haccount)
    refine ⟨i, m, hm, hkey, ?_⟩
    rcases ht.init_fresh hinit (reconnect_monitors _ _ ▸ hm.found) with hold | hnew
    · right
      obtain ⟨rfl, -⟩ : m.account = a ∧ m.hash = h := Prod.mk.inj hkey
      have hreaches := reaches_connect s w m.account
      rw [hconnect] at hreaches
      have hw := hs.tracker.watches_of_reaches hreaches hold hm
      exact ⟨hw, hs.tracker.guardsOf_nonempty_of_live hold hw.live⟩
    · exact .inl hnew

/-- Once a submission was added at the end of a vote, all of this holds. -/
lemma Sound.booked (hs : s.Sound) {σ : ℕ} {t : Tracker}
    (hg : s.tracker.scopes.guards.get? c.guard = some ⟨c.account, σ⟩)
    (hadd : s.tracker.add ⟨c.account, σ⟩ h now = .ok (started, t))
    (heq : s' = ({ s with tracker := t } : Session).endVote id v c (.ok (h, started)))
    (hs' : s'.Sound) : s'.Booked c.account h started := by
  have hadds := hs.tracker.adds hg hadd
  have hmonitors : s'.tracker.monitors = t.monitors := heq ▸ endVote_monitors _ _ _ _ _
  have hstored : ∃ ss, s'.tracker.store.contents c.account = .ok ss ∧ h ∈ hashes ss := by
    have hstore : s'.tracker.store = t.store := heq ▸ endVote_store _ _ _ _ _
    exact hstore ▸ hadds.stored
  refine ⟨hstored, fun ha => ?_, fun hnone i hi => ?_, fun zs z w ms z' hz hconnect => ?_⟩
  · have ht : t.Sound := hs.tracker.act (Tracker.act_add hg hadd)
    have hleft := hs'.guardsOf_nonempty ha
    rw [heq] at hleft ⊢
    obtain ⟨i, m, hm, hkey, -⟩ := watched_letGo (s := Session.goTo { s with tracker := t } id v _) ht
      hadds.watched hleft
    exact ⟨i, m, hm, hkey⟩
  · obtain ⟨k, hfresh⟩ := hadds.fresh hi
    have hm : s'.tracker.monitors.get? i = some (.fresh c.account h σ k) := hmonitors ▸ hfresh
    have haborted := hs'.tracker.isAborted_of_unguarded hm hnone
    refine ⟨_, hm, rfl, rfl, haborted, fun zs z hz => ?_⟩
    obtain ⟨haborted', m', hm', hbecame⟩ :=
      hs'.tracker.retires_of_reaches (run_reaches hz) hm haborted
    refine ⟨m', hm', hbecame, fun e t' hstep => Tracker.step_retires hm' ?_ hstep⟩
    rcases hbecame with rfl | hretires
    · exact haborted'
    · rwa [hretires.same.signal]
  · obtain ⟨ss, hss, hmem⟩ := hstored
    obtain ⟨ys, hys⟩ := run_reaches hz
    obtain ⟨ss', hss', hgrows⟩ := (Tracker.run_precedes hys).grows hss
    exact ⟨ss', hss', hgrows.mem_hashes hmem,
      fun hpending => (run_sound hz hs').connect_watches hconnect hss' hpending⟩

/-- A vote writes to no list but that of the account whose connection it holds. -/
lemma Sound.moves_contents (hs : s.Sound) (hv : s.votes.get? id = some v)
    (hmoves : VoteMoves s id v s') (htakes : s.Takes id c) (ha : a ≠ c.account) :
    s'.tracker.store.contents a = s.tracker.store.contents a := by
  cases hmoves with
  | refused _ _ => rfl
  | asked _ _ => rfl
  | handedOver _ _ => rfl
  | @ended c' t hc ht r =>
      rw [endVote_store]
      rcases ht with rfl | ⟨guard, h, now, started, hg, hadd⟩
      · rfl
      · obtain rfl := htakes.eq hv hc
        obtain ⟨σ, ⟨⟩⟩ := hs.guard_eq hv hc hg
        exact (hs.tracker.adds hg hadd).others ha

/-- A vote that was started while a wallet was connected makes at most one dry run, for the wallet's
account, and hands at most one payload out, to that wallet. Whatever has become of the connection in the
meantime, it writes to no other account's list, and once it has returned a hash, which its wallet gave,
the submission is booked for that account. -/
theorem vote_stays_with_its_wallet {contract : ElectionContract} {settings : TrackerSettings}
    {store : SubmissionStore} {xs ys : List SessionAction} {s₀ : Session}
    (h₀ : (Session.new contract (.empty settings store)).run xs = some s₀)
    (hv : s₀.votes.get? id = some ⟨b, .ready⟩) (hc : s₀.connection = some c)
    (hys : s₀.run (.vote id .start now :: ys) = some s) :
    (s₀.invokedBy id (.vote id .start now :: ys) = [] ∨
      s₀.invokedBy id (.vote id .start now :: ys) = [s₀.contract.dryRun b c.account]) ∧
    (∀ r ∈ s₀.invokedBy id (.vote id .start now :: ys), r.invoker = some c.account) ∧
    (s₀.sentBy id (.vote id .start now :: ys) = [] ∨
      ∃ energy, s₀.sentBy id (.vote id .start now :: ys) =
        [(c.wallet, s₀.contract.payload b energy)]) ∧
    ∀ event now' s', s.act (.vote id event now') = some s' →
      (∀ a, a ≠ c.account → s'.tracker.store.contents a = s.tracker.store.contents a) ∧
      ∀ v h started, s'.votes.get? id = some v → v.phase = .ended (.ok (h, started)) →
        event = .signed (.ok h) ∧ s'.Booked c.account h started := by
  have hs₀ := sound_of_run h₀
  obtain ⟨s₁, hact, hrun⟩ := Option.bind_eq_some_iff.mp hys
  have hs₁ := hs₀.act hact
  have hs := run_sound hrun hs₁
  have htakes : s.Takes id c := (takes_of_start hv hc hact).run hs₁ hrun
  obtain ⟨hinvoked, hsent⟩ := hs₀.calls_of_start hv hc hact ys
  refine ⟨hinvoked, fun r hr => ?_, hsent, fun event now' s' hact' => ?_⟩
  · rcases hinvoked with hnone | hone
    · rw [hnone] at hr
      cases hr
    · rw [hone, List.mem_singleton] at hr
      rw [hr]
      rfl
  · obtain ⟨v, hv', hturns⟩ := stepVote_cases hact'
    refine ⟨fun a ha => hs.moves_contents hv' hturns.moves htakes ha, fun v' h started hv'' hended => ?_⟩
    obtain ⟨c', σ, t, hc', hevent, hg, hadd, heq⟩ := hs.recorded_of_ended hv' hturns hv'' hended
    obtain rfl := htakes.eq hv' hc'
    exact ⟨hevent, hs.booked hg hadd heq (hs.act hact')⟩

/-- While the wallet signs, the session is connected to another account. The vote is booked for the first
one, and the monitor that was started is aborted before it has begun. -/
theorem vote_stays_with_its_wallet_of_switch :
    ∃ s₀ s s', (Session.new ⟨⟨0, 0⟩, "election"⟩ (.empty ⟨10, none⟩ .ofLists)).run
        [.connect 0 ⟨.replicate 1⟩, .cast ⟨[true]⟩] = some s₀ ∧
      s₀.run [.vote 0 .start .epoch, .vote 0 (.dryRun (.ok (.success ⟨5⟩ none))) .epoch,
        .connect 1 ⟨.replicate 2⟩] = some s ∧
      s.act (.vote 0 (.signed (.ok ⟨.replicate 3⟩)) .epoch) = some s' ∧
      s'.account = some ⟨.replicate 2⟩ ∧ s'.tracker.scopes.guardsOf ⟨.replicate 1⟩ = ∅ ∧
      s'.tracker.store.contents ⟨.replicate 2⟩ = s.tracker.store.contents ⟨.replicate 2⟩ ∧
      s'.Booked ⟨.replicate 1⟩ ⟨.replicate 3⟩ (some 0) := by
  obtain ⟨-, -, -, hends⟩ := @vote_stays_with_its_wallet _ 0 ⟨[true]⟩ ⟨0, ⟨.replicate 1⟩, 0⟩ .epoch
    ⟨⟨0, 0⟩, "election"⟩ ⟨10, none⟩ .ofLists [.connect 0 ⟨.replicate 1⟩, .cast ⟨[true]⟩]
    [.vote 0 (.dryRun (.ok (.success ⟨5⟩ none))) .epoch, .connect 1 ⟨.replicate 2⟩] _ rfl rfl rfl rfl
  obtain ⟨hothers, hbooked⟩ := hends (.signed (.ok ⟨.replicate 3⟩)) .epoch _ rfl
  exact ⟨_, _, _, rfl, rfl, rfl, rfl, by decide, hothers ⟨.replicate 2⟩ (by decide),
    (hbooked _ ⟨.replicate 3⟩ (some 0) rfl rfl).2⟩

end ChainElection.Session
