import Mathlib.Tactic
import ChainElection.Http.Exchange

/-!
What comes back from an exchange, and what is sent over one.

* `Exchange.askFor_of_ask`, `Exchange.askFor_of_error`: asking for a JSON value
  comes to what the answer holds, or to the fault with which asking failed.
* `Exchange.Sends`: what an action sends over an exchange that keeps a log, and
  what it comes to. `Sends.pure` and `Sends.bind` put it together for what is
  done one after the other, `sends_ask` and `sends_askFor` are the requests.
-/

namespace ChainElection

namespace Exchange

variable {σ α β : Type} {ex : Exchange σ} {r : HttpRequest}

/-! ### What comes back -/

/-- What is asked for is what the answer holds. -/
lemma askFor_of_ask {s s' : σ} {d : Json.Decoder α} {a : HttpAnswer} (h : ex.ask r s = (.ok a, s')) :
    ex.askFor r d s = (match a.expect d with
      | .error f => .error (.http f)
      | .ok v => .ok v, s') := by
  simp only [askFor, bind, StateT.bind, h]
  cases a.expect d <;> rfl

lemma askFor_of_error {s s' : σ} {d : Json.Decoder α} {f : HttpFault}
    (h : ex.ask r s = (.error f, s')) : ex.askFor r d s = (.error (.http f), s') := by
  simp only [askFor, bind, StateT.bind, h]
  rfl

/-! ### What is sent -/

/-- Whatever was sent before, the action sends a list of requests and comes to a result that are
related like this. -/
def Sends (x : StateM (σ × List Exchanged) α) (T : List Exchanged → α → Prop) : Prop :=
  ∀ s log, ∃ a s' sent, x (s, log) = (a, (s', log ++ sent)) ∧ T sent a

lemma Sends.mono {x : StateM (σ × List Exchanged) α} {T U : List Exchanged → α → Prop}
    (h : Sends x T) (himp : ∀ sent a, T sent a → U sent a) : Sends x U := by
  intro s log
  obtain ⟨a, s', sent, heq, hT⟩ := h s log
  exact ⟨a, s', sent, heq, himp sent a hT⟩

lemma Sends.pure {a : α} {T : List Exchanged → α → Prop} (h : T [] a) :
    Sends (pure a : StateM (σ × List Exchanged) α) T := by
  intro s log
  exact ⟨a, s, [], by rw [List.append_nil]; rfl, h⟩

/-- What is done afterwards is judged together with what was sent before. -/
lemma Sends.bind {x : StateM (σ × List Exchanged) α} {f : α → StateM (σ × List Exchanged) β}
    {T : List Exchanged → α → Prop} {U : List Exchanged → β → Prop} (hx : Sends x T)
    (hf : ∀ sent a, T sent a → Sends (f a) fun later b => U (sent ++ later) b) :
    Sends (x >>= f) U := by
  intro s log
  obtain ⟨a, s', sent, hxa, hT⟩ := hx s log
  obtain ⟨b, s'', later, hfb, hU⟩ := hf sent a hT s' (log ++ sent)
  refine ⟨b, s'', sent ++ later, ?_, hU⟩
  rw [← List.append_assoc, ← hfb]
  simp only [Bind.bind, StateT.bind, hxa]

/-- What an answer amounts to before it is read. -/
def received : HttpReply → Except HttpFault HttpAnswer
  | .closed => .error .transport
  | .answered a => .ok a

/-- A request was sent, and what came back amounts to the result; or its address is of no use, and
nothing was sent. -/
inductive Asked (r : HttpRequest) (read : HttpReply → α) (refused : α) : List Exchanged → α → Prop where
  | sent (reply : HttpReply) : Asked r read refused [⟨r, reply⟩] (read reply)
  | unsent : Asked r read refused [] refused

/-- Whatever is sent to an address that can be used is in the log, with what comes back. -/
lemma ask_recorded (ex : Exchange σ) {r : HttpRequest} (husable : Address.isUsable r.url = true) (s : σ)
    (log : List Exchanged) : ex.recorded.ask r (s, log) =
      (received (ex.answer r s).1, ((ex.answer r s).2, log ++ [⟨r, (ex.answer r s).1⟩])) := by
  rw [ask, husable]
  simp only [if_true, recorded]
  cases (ex.answer r s).1 <;> rfl

/-- What an answer amounts to when it is read. -/
def understood (d : Json.Decoder α) : Except HttpFault HttpAnswer → Except ClientError α
  | .error f => .error (.http f)
  | .ok a =>
    match a.expect d with
    | .error f => .error (.http f)
    | .ok v => .ok v

/-- All that is sent is of a kind. -/
def All (P : HttpRequest → Prop) (sent : List Exchanged) : Prop := ∀ e ∈ sent, P e.request

lemma All.nil {P : HttpRequest → Prop} : All P [] := by rintro e ⟨⟩

lemma All.append {P : HttpRequest → Prop} {sent later : List Exchanged} (h : All P sent)
    (h' : All P later) : All P (sent ++ later) := by
  intro e he
  rcases List.mem_append.mp he with he | he
  · exact h e he
  · exact h' e he

lemma All.mono {P Q : HttpRequest → Prop} {sent : List Exchanged} (h : All P sent)
    (himp : ∀ r, P r → Q r) : All Q sent := fun e he => himp _ (h e he)

lemma Asked.all {read : HttpReply → α} {refused a : α} {sent : List Exchanged}
    (h : Asked r read refused sent a) {P : HttpRequest → Prop} (hP : P r) : All P sent := by
  cases h with
  | unsent => exact .nil
  | sent reply =>
      intro e he
      rw [List.mem_singleton] at he
      subst he
      exact hP

end Exchange

end ChainElection
