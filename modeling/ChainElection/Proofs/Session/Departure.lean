import Mathlib.Tactic
import ChainElection.Proofs.Monitor.Watch
import ChainElection.Proofs.Session.Holders

/-!
What is left of an account's monitoring once the session has left the account.

The session lets go of its connection, but a vote that is under way has taken the
connection along and keeps the account's scope open.

* `Session.IsOver`: the account has no holders, and all its monitors are aborted.
* `Session.Leaves`: the connection ends, or another account is connected.
* `departure_waits_for_votes`: leaving an account ends its monitoring unless a
  vote of it is under way; in that case it is over once the last of them is.
* `vote_outlasts_disconnect`: until then its monitors go on and write.
-/

namespace ChainElection.Session

variable {s s' : Session} {a b : Account} {c : Connection} {x : SessionAction} {w : ℕ} {ms : List ℕ}
  {xs : List SessionAction}

/-- The monitoring of an account is over: it has no holders, and all its monitors are aborted. -/
structure IsOver (s : Session) (a : Account) : Prop where
  holders : s.tracker.scopes.holders a = 0
  aborted : ∀ {i m}, s.tracker.monitors.get? i = some m → m.account = a →
    s.tracker.scopes.isAborted m.signal = true

/-- A vote is under way that has taken a connection to the account along. -/
def IsVoted (s : Session) (a : Account) : Prop :=
  ∃ v ∈ s.votes.values, v.connection?.map Connection.account = some a

instance (s : Session) (a : Account) : Decidable (s.IsVoted a) :=
  inferInstanceAs (Decidable (∃ v ∈ s.votes.values, v.connection?.map Connection.account = some a))

/-- The session leaves an account: its connection ends, or another account is connected. -/
inductive Leaves (s : Session) (a : Account) : SessionAction → Prop where
  | disconnect : Leaves s a .disconnect
  | switch {w : ℕ} {b : Account} {ms : List ℕ} (hb : b ≠ a)
      (hconnect : (s.connect w b).1 = .ok ms) : Leaves s a (.connect w b)

/-! ### Who is left -/

/-- Without holders an account has no guards, and then its monitors are aborted. -/
lemma Sound.isOver_iff (hs : s.Sound) : s.IsOver a ↔ s.tracker.scopes.holders a = 0 := by
  refine ⟨fun h => h.holders, fun h => ⟨h, fun {i m} hm ha => ?_⟩⟩
  subst ha
  rw [hs.tracker.scopes.holders_eq_card, Finset.card_eq_zero] at h
  exact hs.tracker.isAborted_of_unguarded hm h

/-- Where an account is not connected, the connections to it that are held are those of votes. -/
lemma exists_vote_of_mem (hn : s.votes.keys.Nodup) (ha : s.account ≠ some a)
    (hc : c ∈ s.connectionsTo a) : ∃ id v, s.votes.get? id = some v ∧ v.connection? = some c := by
  obtain ⟨hheld, rfl⟩ := (mem_connectionsTo hn).mp hc
  cases hheld with
  | connected hc => exact absurd (by rw [account, hc, Option.map_some]) ha
  | @voting id v hv hc => exact ⟨id, v, hv, hc⟩

lemma connectionsTo_eq_empty_iff (hn : s.votes.keys.Nodup) (ha : s.account ≠ some a) :
    s.connectionsTo a = ∅ ↔ ¬ s.IsVoted a := by
  rw [← Finset.not_nonempty_iff_eq_empty, not_iff_not]
  constructor
  · rintro ⟨c, hc⟩
    obtain ⟨id, v, hv, hvc⟩ := exists_vote_of_mem hn ha hc
    refine ⟨v, Table.mem_values_of_get? hv, ?_⟩
    rw [hvc, Option.map_some, ((mem_connectionsTo hn).mp hc).2]
  · rintro ⟨v, hv, hva⟩
    obtain ⟨c, hvc, rfl⟩ := Option.map_eq_some_iff.mp hva
    obtain ⟨id, hid⟩ := exists_of_mem_votes hn hv
    exact ⟨c, (mem_connectionsTo hn).mpr ⟨.voting hid hvc, rfl⟩⟩

/-- An account that is not connected and for which nobody else has a guard is held by votes only. -/
lemma Tallies.isOver_iff (ht : Tallies xs none s) (hs : s.Sound) (ha : s.account ≠ some a)
    (hout : outsideGuards xs a = ∅) : s.IsOver a ↔ ¬ s.IsVoted a := by
  rw [hs.isOver_iff, ht.holders_eq hs, hout, Finset.card_empty, Nat.zero_add, Finset.card_eq_zero,
    connectionsTo_eq_empty_iff ht.votes ha]

/-! ### Leaving -/

lemma account_reconnect (s : Session) (c : Option Connection) :
    (s.reconnect c).account = c.map Connection.account := by
  rw [account, reconnect_eq]

/-- An account that was connected is the account of the session. -/
lemma account_of_connect (h : s.connect w b = (.ok ms, s')) : s'.account = some b := by
  rcases connect_cases s w b with ⟨e, -, heq⟩ | ⟨ms', t, -, heq⟩ <;> rw [h] at heq
  · cases heq
  · rw [(Prod.mk.inj heq).2, account_reconnect]
    rfl

lemma Leaves.account_ne (hx : s.Leaves a x) (hact : s.act x = some s') : s'.account ≠ some a := by
  cases hx with
  | disconnect =>
      cases hact
      rw [Session.disconnect, account_reconnect]
      simp
  | @switch w b ms hb hconnect =>
      cases hact
      rw [account_of_connect (Prod.ext hconnect rfl)]
      exact fun h => hb (Option.some.inj h)

lemma Leaves.taker?_ne (hx : s.Leaves a x) (b : Account) : x.taker? ≠ some (none, b) := by
  cases hx with
  | disconnect => nofun
  | switch _ _ => nofun

/-- Nothing becomes of votes when the session leaves an account. -/
lemma Leaves.votes_eq (hx : s.Leaves a x) (hact : s.act x = some s') : s'.votes = s.votes := by
  cases hx with
  | disconnect =>
      cases hact
      rw [Session.disconnect, reconnect_eq]
  | switch _ _ =>
      cases hact
      rw [connect_eq]

/-- When the session leaves an account for which nobody else has taken a guard, the holders that are left
are the connections that votes have taken along. So the monitoring of the account is over if and only if
no vote of it is under way, right then and at every later time at which the account is neither connected
again nor held from outside. -/
theorem departure_waits_for_votes {contract : ElectionContract} {settings : TrackerSettings}
    {store : SubmissionStore} (h₀ : (Session.new contract (.empty settings store)).run xs = some s)
    (hout : outsideGuards xs a = ∅) (hx : s.Leaves a x) (hact : s.act x = some s') :
    s'.tracker.scopes.holders a = (s'.connectionsTo a).card ∧
    (∀ c ∈ s'.connectionsTo a, ∃ id v, s.votes.get? id = some v ∧ v.connection? = some c) ∧
    (s'.IsOver a ↔ ¬ s.IsVoted a) ∧
    ∀ ys s'', s'.run ys = some s'' → s''.account ≠ some a → outsideGuards (xs ++ x :: ys) a = ∅ →
      (s''.IsOver a ↔ ¬ s''.IsVoted a) := by
  have hs := sound_of_run h₀
  have ht' := (tallies_of_run h₀).act hs hact
  have hs' := hs.act hact
  have ha := hx.account_ne hact
  have hvotes := hx.votes_eq hact
  have hout' : outsideGuards (xs ++ [x]) a = ∅ :=
    Finset.subset_empty.mp (hout ▸ outsideGuards_concat_subset hx.taker?_ne)
  refine ⟨?_, fun c hc => hvotes ▸ exists_vote_of_mem ht'.votes ha hc, ?_,
    fun ys s'' hys ha'' hout'' => ?_⟩
  · rw [ht'.holders_eq hs', hout', Finset.card_empty, Nat.zero_add]
  · rw [ht'.isOver_iff hs' ha hout', IsVoted, IsVoted, hvotes]
  · have ht'' := ht'.run hs' hys
    rw [List.append_assoc] at ht''
    exact ht''.isOver_iff (run_sound hys hs') ha'' hout''

/-- While the wallet signs, the session is connected to another account. The first one's monitoring is over
only when the wallet has refused. -/
theorem departure_waits_for_votes_of_switch :
    ∃ s s' s'', (Session.new ⟨⟨0, 0⟩, "election"⟩ (.empty ⟨10, none⟩ .ofLists)).run
        [.connect 0 ⟨.replicate 1⟩, .cast ⟨[true]⟩, .vote 0 .start .epoch,
          .vote 0 (.dryRun (.ok (.success ⟨5⟩ none))) .epoch] = some s ∧
      s.Leaves ⟨.replicate 1⟩ (.connect 1 ⟨.replicate 2⟩) ∧
      s.act (.connect 1 ⟨.replicate 2⟩) = some s' ∧
      s'.run [.vote 0 (.signed (.error (.walletRejected "no"))) .epoch] = some s'' ∧
      ¬ s'.IsOver ⟨.replicate 1⟩ ∧ s''.IsOver ⟨.replicate 1⟩ := by
  obtain ⟨-, -, hnow, hlater⟩ := @departure_waits_for_votes _ _ ⟨.replicate 1⟩
    (.connect 1 ⟨.replicate 2⟩) [.connect 0 ⟨.replicate 1⟩, .cast ⟨[true]⟩, .vote 0 .start .epoch,
      .vote 0 (.dryRun (.ok (.success ⟨5⟩ none))) .epoch] ⟨⟨0, 0⟩, "election"⟩ ⟨10, none⟩ .ofLists
    rfl (by decide) (.switch (by decide) rfl) rfl
  refine ⟨_, _, _, rfl, .switch (by decide) rfl, rfl, rfl, fun hover => hnow.mp hover (by decide), ?_⟩
  exact (hlater [.vote 0 (.signed (.error (.walletRejected "no"))) .epoch] _ rfl (by decide)
    (by decide)).mpr (by decide)

/-- The session is disconnected while a vote waits for its wallet, and nobody else has a guard. The account
is left with a holder and with a monitor that is not aborted, and this goes on to write. -/
theorem vote_outlasts_disconnect :
    ∃ s s' s'' m, (Session.new ⟨⟨0, 0⟩, "election"⟩ (.empty ⟨10, none⟩ .ofLists)).run
        [.connect 0 ⟨.replicate 1⟩, .cast ⟨[true]⟩, .vote 0 .start .epoch,
          .vote 0 (.dryRun (.ok (.success ⟨5⟩ none))) .epoch,
          .vote 0 (.signed (.ok ⟨.replicate 3⟩)) .epoch, .track (.step 0 .start), .cast ⟨[true]⟩,
          .vote 1 .start .epoch, .vote 1 (.dryRun (.ok (.success ⟨5⟩ none))) .epoch] = some s ∧
      outsideGuards [.connect 0 ⟨.replicate 1⟩, .cast ⟨[true]⟩, .vote 0 .start .epoch,
        .vote 0 (.dryRun (.ok (.success ⟨5⟩ none))) .epoch,
        .vote 0 (.signed (.ok ⟨.replicate 3⟩)) .epoch, .track (.step 0 .start), .cast ⟨[true]⟩,
        .vote 1 .start .epoch, .vote 1 (.dryRun (.ok (.success ⟨5⟩ none))) .epoch]
        ⟨.replicate 1⟩ = ∅ ∧
      s.account = some ⟨.replicate 1⟩ ∧ s.act .disconnect = some s' ∧ s'.account = none ∧
      s'.tracker.scopes.holders ⟨.replicate 1⟩ = 1 ∧
      s'.tracker.monitors.get? 0 = some m ∧ m.account = ⟨.replicate 1⟩ ∧
      s'.tracker.scopes.isAborted m.signal = false ∧ ¬ s'.IsOver ⟨.replicate 1⟩ ∧
      s'.act (.track (.step 0 (.finalized (.ok .success)))) = some s'' ∧
      s'.tracker.store.contents ⟨.replicate 1⟩ = .ok [⟨⟨.replicate 3⟩, .committed, .epoch⟩] ∧
      s''.tracker.store.contents ⟨.replicate 1⟩ = .ok [⟨⟨.replicate 3⟩, .approved, .epoch⟩] := by
  refine ⟨_, _, _, _, rfl, by decide, rfl, rfl, rfl, by decide, rfl, rfl, by decide, fun hover => ?_,
    rfl, by decide, by decide⟩
  exact absurd hover.holders (by decide)

end ChainElection.Session
