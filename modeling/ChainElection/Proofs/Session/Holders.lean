import Mathlib.Tactic
import ChainElection.Proofs.Monitor.Holders
import ChainElection.Proofs.Session.Guards

/-!
Whose the guards of a session's scopes are.

A guard is taken for a connection or by someone else. Those of connections are
alive as long as the connection is held, be it by the session or by votes that
have taken it along; the others until they are taken back.

* `Session.outsideGuards` are the guards that others have taken for an account
  and not taken back; it looks at nothing but the events of the run.
* `Session.connectionsTo` are the connections to an account that are held.
* `Session.Tallies` is the invariant: no guard is alive but these. A guard may be
  loose in between, when a connection has just given it up; `Tallies.letGo`
  settles that.
* `Tallies.holders_eq`: an account's holders are counted by the two together.
-/

namespace ChainElection

/-- For whom an event takes a guard, if it takes one: for a wallet and its account, or for an account
only. -/
def SessionAction.taker? : SessionAction → Option (Option ℕ × Account)
  | .connect wallet a => some (some wallet, a)
  | .track (.acquire a) => some (none, a)
  | _ => none

/-- Is a guard taken back by the event? -/
def SessionAction.releases (g : ℕ) : SessionAction → Bool
  | .track (.release k) => k == g
  | _ => false

namespace Session

variable {s s' : Session} {id g : ℕ} {v : Vote} {c : Connection} {x : SessionAction} {a : Account}
  {xs ys : List SessionAction} {loose loose' : Option ℕ}

/-! ### Guards of others -/

/-- For whom guards are taken in a run, in order. Guards are numbered in this order too. -/
def takers (xs : List SessionAction) : List (Option ℕ × Account) :=
  xs.filterMap SessionAction.taker?

/-- The guards that others than the session take for an account in a run and do not take back. -/
def outsideGuards (xs : List SessionAction) (a : Account) : Finset ℕ :=
  (Finset.range (takers xs).length).filter fun g =>
    (takers xs)[g]? = some (none, a) ∧ ∀ x ∈ xs, x.releases g = false

lemma mem_outsideGuards : g ∈ outsideGuards xs a ↔
    (takers xs)[g]? = some (none, a) ∧ ∀ x ∈ xs, x.releases g = false := by
  rw [outsideGuards, Finset.mem_filter, Finset.mem_range, and_iff_right_iff_imp]
  rintro ⟨hg, -⟩
  exact (List.getElem?_eq_some_iff.mp hg).1

lemma takers_concat (xs : List SessionAction) (x : SessionAction) :
    takers (xs ++ [x]) = takers xs ++ x.taker?.toList := by
  rw [takers, List.filterMap_append]
  cases h : x.taker? with
  | none => simp [takers, h]
  | some w => simp [takers, h]

lemma mem_outsideGuards_concat : g ∈ outsideGuards (xs ++ [x]) a ↔
    (takers xs ++ x.taker?.toList)[g]? = some (none, a) ∧ (∀ y ∈ xs, y.releases g = false) ∧
      x.releases g = false := by
  rw [mem_outsideGuards, takers_concat]
  simp only [List.forall_mem_append, List.forall_mem_singleton]

/-- An event that takes no guard for others adds none to theirs. -/
lemma outsideGuards_concat_subset (hx : ∀ b, x.taker? ≠ some (none, b)) :
    outsideGuards (xs ++ [x]) a ⊆ outsideGuards xs a := by
  intro g hg
  rw [mem_outsideGuards_concat, List.getElem?_append] at hg
  rw [mem_outsideGuards]
  obtain ⟨htaken, hreleases, -⟩ := hg
  split at htaken
  · exact ⟨htaken, hreleases⟩
  · exact absurd (Option.mem_toList.mp (List.mem_of_getElem? htaken)) (hx a)

/-! ### Guards of connections -/

/-- The connections that the session or a vote holds. -/
def heldConnections (s : Session) : List Connection :=
  s.connection.toList ++ s.votes.values.filterMap Vote.connection?

/-- The connections to an account that the session or a vote holds. -/
def connectionsTo (s : Session) (a : Account) : Finset Connection :=
  s.heldConnections.toFinset.filter fun c => c.account = a

/-- A vote that stands in the table is found under its number. -/
lemma exists_of_mem_votes (hn : s.votes.keys.Nodup) (hv : v ∈ s.votes.values) :
    ∃ id, s.votes.get? id = some v := by
  obtain ⟨⟨id, w⟩, hmem, rfl⟩ := List.mem_map.mp hv
  exact ⟨id, (Table.get?_eq_some_iff hn).mpr hmem⟩

lemma mem_heldConnections (hn : s.votes.keys.Nodup) : c ∈ s.heldConnections ↔ s.Holds c := by
  rw [heldConnections, List.mem_append, Option.mem_toList, List.mem_filterMap]
  constructor
  · rintro (hc | ⟨v, hv, hc⟩)
    · exact .connected hc
    · obtain ⟨id, hid⟩ := exists_of_mem_votes hn hv
      exact .voting hid hc
  · intro h
    cases h with
    | connected hc => exact .inl hc
    | voting hv hc => exact .inr ⟨_, Table.mem_values_of_get? hv, hc⟩

lemma mem_connectionsTo (hn : s.votes.keys.Nodup) :
    c ∈ s.connectionsTo a ↔ s.Holds c ∧ c.account = a := by
  rw [connectionsTo, Finset.mem_filter, List.mem_toFinset, mem_heldConnections hn]

/-- A guard that is found to be held is that of a connection that is held. -/
lemma exists_of_holdsGuard (hn : s.votes.keys.Nodup) (h : s.holdsGuard g = true) :
    ∃ c, s.Holds c ∧ c.guard = g := by
  rw [holdsGuard, Bool.or_eq_true, Option.any_eq_true, List.any_eq_true] at h
  rcases h with ⟨c, hc, hg⟩ | ⟨v, hv, hc⟩
  · exact ⟨c, .connected hc, eq_of_beq hg⟩
  · obtain ⟨c, hc, hg⟩ := (Option.any_eq_true ..).mp hc
    obtain ⟨id, hid⟩ := exists_of_mem_votes hn hv
    exact ⟨c, .voting hid hc, eq_of_beq hg⟩

/-! ### The invariant -/

/-- After a run, the guards that are alive are those that others have taken, and those of the connections
that are held, each of which was taken for it. One guard may be loose. -/
structure Tallies (xs : List SessionAction) (loose : Option ℕ) (s : Session) : Prop where
  votes : s.votes.keys.Nodup
  next : s.tracker.scopes.nextGuard = (takers xs).length
  released_lt : ∀ {x g}, x ∈ xs → x.releases g = true → g < s.tracker.scopes.nextGuard
  held : ∀ {c}, s.Holds c → (takers xs)[c.guard]? = some (some c.wallet, c.account)
  outside : ∀ {g a}, g ∈ outsideGuards xs a → ∃ σ, s.tracker.scopes.guards.get? g = some ⟨a, σ⟩
  owned : ∀ {g guard}, s.tracker.scopes.guards.get? g = some guard →
    g ∈ outsideGuards xs guard.account ∨ (∃ c, s.Holds c ∧ c.guard = g) ∨ loose = some g

lemma Tallies.new (contract : ElectionContract) (settings : TrackerSettings)
    (store : SubmissionStore) : Tallies [] none (.new contract (.empty settings store)) where
  votes := List.nodup_nil
  next := rfl
  released_lt := nofun
  held := fun h => by
    cases h with
    | connected hc => cases hc
    | voting hv _ => cases hv
  outside := fun h => by
    rw [mem_outsideGuards] at h
    cases h.1
  owned := nofun

/-- The invariant looks at the connection, the votes and the scopes only. -/
lemma Tallies.of_eq (ht : Tallies xs loose s) (hconnection : s'.connection = s.connection)
    (hvotes : s'.votes = s.votes) (hscopes : s'.tracker.scopes = s.tracker.scopes) :
    Tallies xs loose s' where
  votes := hvotes ▸ ht.votes
  next := hscopes ▸ ht.next
  released_lt := hscopes ▸ ht.released_lt
  held := fun h => ht.held (h.of_eq hconnection hvotes)
  outside := hscopes ▸ ht.outside
  owned := by
    intro g guard hg
    refine (ht.owned (hscopes ▸ hg)).imp_right (Or.imp_left ?_)
    rintro ⟨c, hc, rfl⟩
    exact ⟨c, hc.of_eq hconnection.symm hvotes.symm, rfl⟩

/-- An event that takes no guard and takes none back leaves those of others as they are. -/
lemma Tallies.concat (ht : Tallies xs loose s) (htaker : x.taker? = none)
    (hreleases : ∀ g, x.releases g = false) : Tallies (xs ++ [x]) loose s := by
  have htakers : takers (xs ++ [x]) = takers xs := by
    rw [takers_concat, htaker]
    exact List.append_nil _
  have houtside : ∀ {g a}, g ∈ outsideGuards (xs ++ [x]) a ↔ g ∈ outsideGuards xs a := by
    intro g a
    rw [mem_outsideGuards_concat, mem_outsideGuards, htaker, Option.toList_none, List.append_nil]
    exact and_congr_right fun _ => and_iff_left (hreleases g)
  refine ⟨ht.votes, htakers ▸ ht.next, fun hy hg => ?_, htakers ▸ ht.held,
    fun h => ht.outside (houtside.mp h), fun hg => (ht.owned hg).imp_left houtside.mpr⟩
  rcases List.mem_append.mp hy with hy | hy
  · exact ht.released_lt hy hg
  · rw [List.mem_singleton.mp hy, hreleases] at hg
    cases hg

/-- A guard that is not that of others may be released. -/
lemma Tallies.release (ht : Tallies xs (some g) s) {w : ℕ} (hg : (takers xs)[g]? = some (some w, a)) :
    Tallies xs none { s with tracker := s.tracker.release g } where
  votes := ht.votes
  next := Scopes.release_nextGuard.trans ht.next
  released_lt := fun hx h => lt_of_lt_of_eq (ht.released_lt hx h) Scopes.release_nextGuard.symm
  held := fun h => ht.held (h.of_eq rfl rfl)
  outside := by
    intro k b hk
    obtain ⟨σ, hσ⟩ := ht.outside hk
    have hne : g ≠ k := by
      rintro rfl
      rw [mem_outsideGuards, hg] at hk
      cases hk.1
    exact ⟨σ, (Scopes.get?_release_guards k).trans (by rw [if_neg hne, hσ])⟩
  owned := by
    intro k guard hk
    have hk' : (s.tracker.scopes.release g).guards.get? k = some guard := hk
    rw [Scopes.get?_release_guards] at hk'
    split at hk'
    · cases hk'
    · rename_i hne
      refine (ht.owned hk').imp_right fun hheld => ?_
      rcases hheld with ⟨c, hc, rfl⟩ | hloose
      · exact .inl ⟨c, hc.of_eq rfl rfl, rfl⟩
      · exact absurd (Option.some.inj hloose) hne

/-- A loose guard is held by someone else still, or it is released. -/
lemma Tallies.letGo (ht : Tallies xs (some g) s) {w : ℕ} (hg : (takers xs)[g]? = some (some w, a)) :
    Tallies xs none (s.letGo g) := by
  rcases letGo_cases s g with ⟨hheld, h⟩ | ⟨-, h⟩ <;> rw [h]
  · obtain ⟨c, hc, rfl⟩ := exists_of_holdsGuard ht.votes hheld
    refine { ht with owned := fun hk => (ht.owned hk).imp_right fun hheld => .inl ?_ }
    rcases hheld with hheld | hloose
    · exact hheld
    · exact ⟨c, hc, Option.some.inj hloose⟩
  · exact ht.release hg

/-! ### Connections -/

/-- The guard that an event takes is the next one. -/
lemma Tallies.getElem?_takers (ht : Tallies xs loose s) {w : Option ℕ} (htaker : x.taker? = some (w, a))
    (g : ℕ) : (takers (xs ++ [x]))[g]? =
      if s.tracker.scopes.nextGuard = g then some (w, a) else (takers xs)[g]? := by
  rw [takers_concat, htaker, Option.toList_some, ht.next]
  split
  · rename_i hg
    rw [← hg, List.getElem?_concat_length]
  · rename_i hg
    exact getElem?_concat_of_ne _ (Ne.symm hg)

/-- It is one of others if it was not taken for a wallet. -/
lemma Tallies.mem_outsideGuards_concat (ht : Tallies xs loose s) {w : Option ℕ}
    (htaker : x.taker? = some (w, a)) (hreleases : ∀ g, x.releases g = false) {b : Account} :
    g ∈ outsideGuards (xs ++ [x]) b ↔
      if s.tracker.scopes.nextGuard = g then w = none ∧ a = b else g ∈ outsideGuards xs b := by
  have hno : (∀ y ∈ xs ++ [x], y.releases g = false) ↔ ∀ y ∈ xs, y.releases g = false := by
    rw [List.forall_mem_append, List.forall_mem_singleton]
    exact and_iff_left (hreleases g)
  rw [mem_outsideGuards, hno, ht.getElem?_takers htaker]
  split
  · rename_i hg
    subst hg
    have hfresh : ∀ y ∈ xs, y.releases s.tracker.scopes.nextGuard = false := fun y hy =>
      Bool.eq_false_iff.mpr fun h => absurd (ht.released_lt hy h) (lt_irrefl _)
    rw [and_iff_left hfresh, Option.some.injEq, Prod.mk.injEq]
  · exact mem_outsideGuards.symm

/-- A guard that was taken is one of others, or it is loose. -/
lemma Tallies.acquire (ht : Tallies xs none s) {w : Option ℕ} (htaker : x.taker? = some (w, a))
    (hreleases : ∀ g, x.releases g = false) :
    Tallies (xs ++ [x]) (if w = none then none else some s.tracker.scopes.nextGuard)
      { s with tracker := (s.tracker.acquire a).2 } where
  votes := ht.votes
  next := by
    rw [takers_concat, htaker, List.length_append, ← ht.next]
    rfl
  released_lt := by
    intro y g hy hg
    refine Nat.lt_succ_of_lt ?_
    rcases List.mem_append.mp hy with hy | hy
    · exact ht.released_lt hy hg
    · rw [List.mem_singleton.mp hy, hreleases] at hg
      cases hg
  held := by
    intro c h
    have hc := ht.held (h.of_eq rfl rfl)
    have hne : s.tracker.scopes.nextGuard ≠ c.guard := by
      intro heq
      rw [← heq, ht.next, List.getElem?_eq_none le_rfl] at hc
      cases hc
    rw [ht.getElem?_takers htaker, if_neg hne, hc]
  outside := by
    intro k b hk
    rw [ht.mem_outsideGuards_concat htaker hreleases] at hk
    show ∃ σ, (s.tracker.acquire a).2.scopes.guards.get? k = some ⟨b, σ⟩
    rw [get?_acquire_guards]
    split at hk
    · rename_i hkn
      obtain ⟨-, rfl⟩ := hk
      exact ⟨_, if_pos hkn⟩
    · rename_i hkn
      obtain ⟨σ, hσ⟩ := ht.outside hk
      exact ⟨σ, by rw [if_neg hkn, hσ]⟩
  owned := by
    intro k guard hk
    have hk' : (s.tracker.acquire a).2.scopes.guards.get? k = some guard := hk
    rw [get?_acquire_guards] at hk'
    rw [ht.mem_outsideGuards_concat htaker hreleases]
    split at hk'
    · rename_i hkn
      cases hk'
      subst hkn
      cases w with
      | none => exact .inl (by rw [if_pos rfl]; exact ⟨rfl, rfl⟩)
      | some w => exact .inr (.inr rfl)
    · rename_i hkn
      rw [if_neg hkn]
      refine (ht.owned hk').imp_right fun hheld => .inl ?_
      rcases hheld with ⟨c, hc, rfl⟩ | hloose
      · exact ⟨c, hc.of_eq rfl rfl, rfl⟩
      · cases hloose

/-- A connection that is replaced leaves its guard loose; the new one holds the guard that was taken for
it. -/
lemma Tallies.withConnection (ht : Tallies xs loose s) {c : Option Connection}
    (hloose : loose = c.map Connection.guard)
    (hc : ∀ c', c = some c' → (takers xs)[c'.guard]? = some (some c'.wallet, c'.account)) :
    Tallies xs (s.connection.map Connection.guard) { s with connection := c } where
  votes := ht.votes
  next := ht.next
  released_lt := ht.released_lt
  held := by
    intro c' h
    cases h with
    | connected hc' => exact hc c' hc'
    | voting hv hc' => exact ht.held (.voting hv hc')
  outside := ht.outside
  owned := by
    intro k guard hk
    rcases ht.owned hk with hout | ⟨c', hheld, rfl⟩ | hl
    · exact .inl hout
    · right
      cases hheld with
      | connected hc' => exact .inr (by rw [hc', Option.map_some])
      | voting hv hc' => exact .inl ⟨c', .voting hv hc', rfl⟩
    · obtain ⟨c', hc', rfl⟩ := Option.map_eq_some_iff.mp (hloose.symm.trans hl)
      exact .inr (.inl ⟨c', .connected hc', rfl⟩)

lemma Tallies.reconnect (ht : Tallies xs loose s) {c : Option Connection}
    (hloose : loose = c.map Connection.guard)
    (hc : ∀ c', c = some c' → (takers xs)[c'.guard]? = some (some c'.wallet, c'.account)) :
    Tallies xs none (s.reconnect c) := by
  have hnew := ht.withConnection hloose hc
  rcases reconnect_cases s c with ⟨hnone, h⟩ | ⟨o, ho, h⟩ <;> rw [h]
  · rwa [hnone] at hnew
  · rw [ho] at hnew
    exact hnew.letGo (ht.held (.connected ho))

lemma Tallies.connect (ht : Tallies xs none s) (wallet : ℕ) (a : Account) :
    Tallies (xs ++ [.connect wallet a]) none (s.connect wallet a).2 := by
  have htaken := ht.acquire (x := .connect wallet a) rfl fun _ => rfl
  have hlast : (takers (xs ++ [.connect wallet a]))[s.tracker.scopes.nextGuard]? =
      some (some wallet, a) := by
    rw [ht.getElem?_takers rfl, if_pos rfl]
  rcases connect_cases s wallet a with ⟨e, -, h⟩ | ⟨ms, t, hinit, h⟩ <;> rw [h]
  · exact htaken.release hlast
  · have htracked : Tallies (xs ++ [.connect wallet a]) (some s.tracker.scopes.nextGuard)
        ({ s with tracker := t } : Session) := htaken.of_eq rfl rfl (Tracker.init_scopes hinit)
    refine htracked.reconnect rfl fun c' hc' => ?_
    cases hc'
    exact hlast

/-! ### Votes -/

/-- A vote that goes to another phase holds what it held, or leaves its guard loose. -/
lemma Tallies.goTo (ht : Tallies xs none s) (hv : s.votes.get? id = some v) {phase : VotePhase}
    (hnew : ∀ {c}, ({ v with phase := phase } : Vote).connection? = some c → s.Holds c)
    (hold : ∀ {c}, v.connection? = some c →
      ({ v with phase := phase } : Vote).connection? = some c ∨ loose = some c.guard) :
    Tallies xs loose (s.goTo id v phase) := by
  have hget : ∀ k, (s.goTo id v phase).votes.get? k =
      if id = k then some { v with phase := phase } else s.votes.get? k := fun k => Table.get?_set ..
  refine ⟨Table.nodup_keys_set ht.votes _ _, ht.next, ht.released_lt, fun {c} h => ?_, ht.outside,
    fun {k guard} hk => ?_⟩
  · cases h with
    | connected hc => exact ht.held (.connected hc)
    | @voting k w hk hc =>
        rw [hget] at hk
        split at hk
        · cases hk
          exact ht.held (hnew hc)
        · exact ht.held (.voting hk hc)
  · refine (ht.owned hk).imp_right ?_
    rintro (⟨c, hheld, rfl⟩ | hloose)
    · cases hheld with
      | connected hc => exact .inl ⟨c, .connected hc, rfl⟩
      | @voting k w hk hc =>
          by_cases hid : id = k
          · subst hid
            obtain rfl : v = w := Option.some.inj (hv.symm.trans hk)
            rcases hold hc with hc' | hl
            · exact .inl ⟨c, .voting (by rw [hget, if_pos rfl]) hc', rfl⟩
            · exact .inr hl
          · exact .inl ⟨c, .voting (by rw [hget, if_neg hid, hk]) hc, rfl⟩
    · cases hloose

lemma Tallies.cast (ht : Tallies xs none s) (b : Ballot) (hnew : s.votes.get? s.nextVote = none) :
    Tallies xs none (s.castVote b).2 := by
  have hget : ∀ k, (s.castVote b).2.votes.get? k =
      if s.nextVote = k then some ⟨b, .ready⟩ else s.votes.get? k := fun k => Table.get?_set ..
  refine ⟨Table.nodup_keys_set ht.votes _ _, ht.next, ht.released_lt, fun {c} h => ?_, ht.outside,
    fun {k guard} hk => ?_⟩
  · cases h with
    | connected hc => exact ht.held (.connected hc)
    | @voting k w hk hc =>
        rw [hget] at hk
        split at hk
        · cases hk
          cases hc
        · exact ht.held (.voting hk hc)
  · refine (ht.owned hk).imp_right (Or.imp_left ?_)
    rintro ⟨c, hheld, rfl⟩
    cases hheld with
    | connected hc => exact ⟨c, .connected hc, rfl⟩
    | @voting k w hk hc =>
        have hne : s.nextVote ≠ k := by
          rintro rfl
          rw [hnew] at hk
          cases hk
        exact ⟨c, .voting (by rw [hget, if_neg hne, hk]) hc, rfl⟩

lemma Tallies.moves (ht : Tallies xs none s) (hv : s.votes.get? id = some v)
    (h : VoteMoves s id v s') : Tallies xs none s' := by
  have hready : v.phase = .ready → v.connection? = none := fun hphase => by
    rw [Vote.connection?, hphase]
  cases h with
  | refused hphase e =>
      refine ht.goTo hv (fun hc => by cases hc) fun hc => ?_
      rw [hready hphase] at hc
      cases hc
  | @asked c hphase hc =>
      have hasked : Tallies xs none (s.goTo id v (.dryRunning c)) :=
        ht.goTo hv (fun hc' => by cases hc'; exact .connected hc) fun hc' => by
          rw [hready hphase] at hc'
          cases hc'
      exact hasked.of_eq rfl rfl rfl
  | @handedOver c _ p hphase _ =>
      have hheld : v.connection? = some c := by rw [Vote.connection?, hphase]
      have hsigning : Tallies xs none (s.goTo id v (.signing c)) :=
        ht.goTo hv (fun hc' => by cases hc'; exact .voting hv hheld) fun hc' =>
          .inl (hheld.symm.trans hc')
      exact hsigning.of_eq rfl rfl rfl
  | @ended c t hc hadd r =>
      have hscopes : t.scopes = s.tracker.scopes := by
        rcases hadd with rfl | ⟨guard, h, now, started, -, hadd⟩
        · rfl
        · exact Tracker.add_scopes hadd
      have htracked : Tallies xs none ({ s with tracker := t } : Session) :=
        ht.of_eq rfl rfl hscopes
      have hended : Tallies xs (some c.guard)
          (({ s with tracker := t } : Session).goTo id v (.ended r)) :=
        htracked.goTo hv (fun hc' => by cases hc') fun hc' =>
          .inr (by rw [Option.some.inj (hc.symm.trans hc')])
      exact hended.letGo (ht.held (.voting hv hc))

/-! ### Guards that come and go by themselves -/

/-- A guard that is not that of a connection is one of others, and is theirs no more once it is taken
back. -/
lemma Tallies.takeBack (ht : Tallies xs none s) {guard : Guard}
    (hg : s.tracker.scopes.guards.get? g = some guard) (hfree : s.holdsGuard g = false) :
    Tallies (xs ++ [.track (.release g)]) none { s with tracker := s.tracker.release g } := by
  have htakers : takers (xs ++ [.track (.release g)]) = takers xs := by
    rw [takers_concat]
    exact List.append_nil _
  have houtside : ∀ {k b}, k ∈ outsideGuards (xs ++ [.track (.release g)]) b ↔
      k ∈ outsideGuards xs b ∧ g ≠ k := by
    intro k b
    have hreleases : (SessionAction.track (.release g)).releases k = false ↔ g ≠ k :=
      beq_eq_false_iff_ne
    rw [mem_outsideGuards, htakers, List.forall_mem_append, List.forall_mem_singleton, hreleases,
      mem_outsideGuards, and_assoc]
  have hlt : g < s.tracker.scopes.nextGuard := by
    rcases ht.owned hg with hout | ⟨c, hc, rfl⟩ | hloose
    · rw [mem_outsideGuards] at hout
      exact ht.next ▸ (List.getElem?_eq_some_iff.mp hout.1).1
    · rw [hc.holdsGuard] at hfree
      cases hfree
    · cases hloose
  refine ⟨ht.votes, htakers ▸ Scopes.release_nextGuard.trans ht.next, fun {y k} hy hk => ?_,
    fun h => htakers ▸ ht.held (h.of_eq rfl rfl), fun {k b} hk => ?_, fun {k gd} hk => ?_⟩
  · refine lt_of_lt_of_eq ?_ Scopes.release_nextGuard.symm
    rcases List.mem_append.mp hy with hy | hy
    · exact ht.released_lt hy hk
    · rw [List.mem_singleton] at hy
      subst hy
      exact eq_of_beq hk ▸ hlt
  · obtain ⟨hk, hne⟩ := houtside.mp hk
    obtain ⟨σ, hσ⟩ := ht.outside hk
    exact ⟨σ, (Scopes.get?_release_guards k).trans (by rw [if_neg hne, hσ])⟩
  · have hk' : (s.tracker.scopes.release g).guards.get? k = some gd := hk
    rw [Scopes.get?_release_guards] at hk'
    split at hk'
    · cases hk'
    · rename_i hne
      rcases ht.owned hk' with hout | ⟨c, hc, rfl⟩ | hloose
      · exact .inl (houtside.mpr ⟨hout, hne⟩)
      · exact .inr (.inl ⟨c, hc.of_eq rfl rfl, rfl⟩)
      · cases hloose

lemma Tallies.track {y : TrackerAction} {t : Tracker} (ht : Tallies xs none s)
    (hmay : s.mayTrack y = true) (hact : s.tracker.act y = some t) :
    Tallies (xs ++ [.track y]) none { s with tracker := t } := by
  -- what is neither the taking of a guard nor the taking back of one concerns no guards
  have hquiet : (∀ b, y ≠ .acquire b) → (∀ k, y ≠ .release k) →
      Tallies xs none ({ s with tracker := t } : Session) := by
    intro hacquire hrelease
    rcases Tracker.act_scopes hact with ⟨b, hx, -⟩ | ⟨k, hx, -⟩ | hscopes
    · exact absurd hx (hacquire b)
    · exact absurd hx (hrelease k)
    · exact ht.of_eq rfl rfl hscopes
  cases y with
  | acquire b =>
      cases hact
      exact ht.acquire (x := .track (.acquire b)) (w := none) rfl fun _ => rfl
  | release k =>
      obtain ⟨guard, hk, rfl⟩ := Option.map_eq_some_iff.mp hact
      exact ht.takeBack hk (by simpa [mayTrack] using hmay)
  | _ => exact (hquiet (by simp) (by simp)).concat rfl fun _ => rfl

/-! ### Runs -/

/-- Whatever happens keeps the invariant. -/
theorem Tallies.act (ht : Tallies xs none s) (hs : s.Sound) (h : s.act x = some s') :
    Tallies (xs ++ [x]) none s' := by
  cases x with
  | connect wallet a =>
      cases h
      exact ht.connect wallet a
  | disconnect =>
      cases h
      exact (ht.reconnect rfl fun _ hc => by cases hc).concat rfl fun _ => rfl
  | refresh =>
      cases h
      have hrefreshed : Tallies xs none s.refresh.2 := ht.of_eq rfl rfl rfl
      exact hrefreshed.concat rfl fun _ => rfl
  | endRefresh k answer =>
      rw [endRefresh_cases h]
      have hrefreshed : Tallies xs none
          { s with config := s'.config, refreshes := s'.refreshes } := ht.of_eq rfl rfl rfl
      exact hrefreshed.concat rfl fun _ => rfl
  | cast b =>
      cases h
      have hnew : s.votes.get? s.nextVote = none := by
        by_contra hsome
        obtain ⟨v, hv⟩ := Option.ne_none_iff_exists'.mp hsome
        exact absurd (hs.vote_lt hv) (lt_irrefl _)
      exact (ht.cast b hnew).concat rfl fun _ => rfl
  | vote k event now =>
      obtain ⟨v, hv, hturns⟩ := stepVote_cases h
      exact (ht.moves hv hturns.moves).concat rfl fun _ => rfl
  | track y =>
      rw [Session.act] at h
      split at h
      · rename_i hmay
        obtain ⟨t, hact, rfl⟩ := Option.map_eq_some_iff.mp h
        exact ht.track hmay hact
      · cases h

theorem Tallies.run (ht : Tallies xs none s) (hs : s.Sound) (h : s.run ys = some s') :
    Tallies (xs ++ ys) none s' := by
  induction ys generalizing xs s with
  | nil =>
      cases h
      rwa [List.append_nil]
  | cons y r ih =>
      obtain ⟨s₁, hy, hr⟩ := Option.bind_eq_some_iff.mp h
      have hrest := ih (ht.act hs hy) (hs.act hy) hr
      rwa [List.append_assoc] at hrest

lemma tallies_of_run {contract : ElectionContract} {settings : TrackerSettings}
    {store : SubmissionStore} (h : (Session.new contract (.empty settings store)).run xs = some s) :
    Tallies xs none s :=
  (Tallies.new contract settings store).run (.new contract settings store) h

/-! ### Holders -/

lemma Tallies.guardsOf_eq (ht : Tallies xs none s) (hs : s.Sound) (a : Account) :
    s.tracker.scopes.guardsOf a =
      outsideGuards xs a ∪ (s.connectionsTo a).image Connection.guard := by
  ext g
  rw [Scopes.mem_guardsOf, Finset.mem_union, Finset.mem_image]
  constructor
  · rintro ⟨guard, hg, rfl⟩
    refine (ht.owned hg).imp_right ?_
    rintro (⟨c, hc, rfl⟩ | hloose)
    · obtain ⟨σ, hσ⟩ := hs.guarded hc
      rw [hg, Option.some.injEq] at hσ
      subst hσ
      exact ⟨c, (mem_connectionsTo ht.votes).mpr ⟨hc, rfl⟩, rfl⟩
    · cases hloose
  · rintro (hout | ⟨c, hc, rfl⟩)
    · obtain ⟨σ, hσ⟩ := ht.outside hout
      exact ⟨_, hσ, rfl⟩
    · obtain ⟨hheld, rfl⟩ := (mem_connectionsTo ht.votes).mp hc
      obtain ⟨σ, hσ⟩ := hs.guarded hheld
      exact ⟨_, hσ, rfl⟩

/-- A connection that is held is known by its guard. -/
lemma Tallies.eq_of_guard (ht : Tallies xs loose s) {c' : Connection} (hc : s.Holds c)
    (hc' : s.Holds c') (hguard : c.guard = c'.guard) : c = c' := by
  have htaken := ht.held hc
  rw [hguard, ht.held hc', Option.some.injEq, Prod.mk.injEq, Option.some.injEq] at htaken
  obtain ⟨hwallet, haccount⟩ := htaken
  obtain ⟨w, a, g⟩ := c
  obtain ⟨w', a', g'⟩ := c'
  dsimp only at hwallet haccount hguard
  rw [hwallet, haccount, hguard]

/-- The holders of an account's scope are the guards of others and the connections that are held. -/
theorem Tallies.holders_eq (ht : Tallies xs none s) (hs : s.Sound) (a : Account) :
    s.tracker.scopes.holders a = (outsideGuards xs a).card + (s.connectionsTo a).card := by
  have hdisjoint : Disjoint (outsideGuards xs a) ((s.connectionsTo a).image Connection.guard) := by
    refine Finset.disjoint_left.mpr fun g hout hmem => ?_
    obtain ⟨c, hc, rfl⟩ := Finset.mem_image.mp hmem
    have htaken := ht.held ((mem_connectionsTo ht.votes).mp hc).1
    rw [(mem_outsideGuards.mp hout).1] at htaken
    cases htaken
  have hinj : Set.InjOn Connection.guard (s.connectionsTo a) := by
    intro c hc c' hc' hguard
    exact ht.eq_of_guard ((mem_connectionsTo ht.votes).mp hc).1
      ((mem_connectionsTo ht.votes).mp hc').1 hguard
  rw [hs.tracker.scopes.holders_eq_card, ht.guardsOf_eq hs, Finset.card_union_of_disjoint hdisjoint,
    Finset.card_image_of_injOn hinj]

end Session

end ChainElection
