import Mathlib.Tactic
import ChainElection.Proofs.Http.Fetching

/-!
Bodies of resources are judged whole or not at all, however they are cut.

* `HttpBody.readLimited_eq`: what reading a body comes to depends on the bytes
  that came through and on whether the transfer broke, not on where it was cut.
* `Resource.goOn_eq`: a fetch goes on in two ways. It either hands over what it
  has (`FetchPhase.judged?`) to be hashed and decoded, or it draws what comes
  next (`FetchPhase.draw`), for which it needs neither digest nor decoder.
* `FetchPhase.Follows` is what is known of a fetch that has gone on for a while:
  what it has read is within the limit, and a beginning of the body. `judged`
  says that only a whole body is handed over.
* `bodies_are_judged_whole` puts this together with the outcomes of fetches.
-/

namespace ChainElection

namespace HttpBody

/-- What reading chunks onto what is there comes to. -/
lemma readChunks_eq {url : String} {limit : ℕ} {broken : Bool} {acc : List UInt8}
    {cs : List (List UInt8)} (hacc : acc.length ≤ limit) :
    readChunks url limit broken acc cs =
      if limit < acc.length + cs.flatten.length then .error (.bodyTooLarge url limit)
      else if broken then .error (.http .transport) else .ok (acc ++ cs.flatten) := by
  induction cs generalizing acc with
  | nil =>
      have hfits : ¬ limit < acc.length + ([] : List UInt8).length := by
        rw [List.length_nil]
        omega
      rw [readChunks, List.flatten_nil, if_neg hfits, List.append_nil]
  | cons c cs ih =>
      have htotal : acc.length + (c :: cs).flatten.length =
          acc.length + c.length + cs.flatten.length := by
        rw [List.flatten_cons, List.length_append, Nat.add_assoc]
      rw [readChunks, htotal]
      split
      · rename_i hlimit
        rw [if_pos (by omega)]
      · rename_i hlimit
        have hacc' : (acc ++ c).length ≤ limit := by
          rw [List.length_append]
          omega
        rw [ih hacc', List.length_append, List.flatten_cons, List.append_assoc]

/-- What reading a body comes to, by what came through of it. -/
lemma readLimited_eq (b : HttpBody) (url : String) (limit : ℕ) :
    b.readLimited url limit =
      if limit < b.chunks.flatten.length then .error (.bodyTooLarge url limit)
      else if b.broken then .error (.http .transport) else .ok b.chunks.flatten := by
  rw [readLimited, readChunks_eq (Nat.zero_le limit), List.length_nil, Nat.zero_add, List.nil_append]

end HttpBody

variable {α : Type} {r : Resource} {limit : ℕ} {d : Json.Decoder α} {guard : α → Bool}
  {answer : Except HttpFault HttpAnswer} {a a' : HttpAnswer} {bs : List UInt8}

/-- What an answer comes to, by its status and by what came through of its body. -/
lemma Resource.ofAnswer_eq (r : Resource) (limit : ℕ) (d : Json.Decoder α) (guard : α → Bool)
    (a : HttpAnswer) : r.ofAnswer limit d guard (.ok a) =
      if 400 ≤ a.status ∧ a.status < 600 then .error (.http (.status a.status))
      else if limit < a.body.chunks.flatten.length then .error (.bodyTooLarge r.url limit)
      else if a.body.broken then .error (.http .transport)
      else (r.verify d guard a.body.chunks.flatten).mapError .resource := by
  rcases a.success?_cases with ⟨hstatus, hrefused⟩ | ⟨hstatus, htaken⟩
  · rw [if_pos hstatus]
    simp only [ofAnswer, hrefused]
  · rw [if_neg hstatus]
    simp only [ofAnswer, htaken, HttpBody.readLimited_eq]
    split_ifs
    · rfl
    · rfl
    · cases hverify : r.verify d guard a.body.chunks.flatten with
      | error f => simp only [hverify, Except.mapError]
      | ok v => simp only [hverify, Except.mapError]

/-! ### What is judged -/

namespace FetchPhase

variable {p : FetchPhase α}

/-- The bytes that are hashed and decoded when the fetch goes on, if that is what it does next. -/
def judged? : FetchPhase α → Option (List UInt8)
  | .reading acc ⟨[], false⟩ => some acc
  | _ => none

/-- The fetch goes on without judging anything: it takes the answer, or what comes next of the body. -/
def draw (url : String) (limit : ℕ) : FetchPhase α → FetchPhase α
  | .asking (.error f) => .done (.error (.http f))
  | .asking (.ok a) =>
    if 400 ≤ a.status ∧ a.status < 600 then .done (.error (.http (.status a.status)))
    else .reading [] a.body
  | .reading acc ⟨c :: rest, broken⟩ =>
    if limit < acc.length + c.length then .done (.error (.bodyTooLarge url limit))
    else .reading (acc ++ c) ⟨rest, broken⟩
  | .reading _ ⟨[], true⟩ => .done (.error (.http .transport))
  | p => p

lemma judged?_eq_some_iff : p.judged? = some bs ↔ p = .reading bs ⟨[], false⟩ := by
  constructor
  · intro h
    unfold judged? at h
    split at h
    · rw [Option.some.inj h]
    · cases h
  · rintro rfl
    rfl

end FetchPhase

/-- A fetch goes on by judging what it has read, or without looking at digest, decoder and guard. -/
lemma Resource.goOn_eq (r : Resource) (limit : ℕ) (d : Json.Decoder α) (guard : α → Bool)
    (p : FetchPhase α) : r.goOn limit d guard p =
      match p.judged? with
      | some bs => .done ((r.verify d guard bs).mapError .resource)
      | none => p.draw r.url limit := by
  match p with
  | .done _ => rfl
  | .asking (.error _) => rfl
  | .asking (.ok a) =>
      rcases a.success?_cases with ⟨hstatus, h⟩ | ⟨hstatus, h⟩
      · simp only [goOn, h, FetchPhase.judged?, FetchPhase.draw, if_pos hstatus]
      · simp only [goOn, h, FetchPhase.judged?, FetchPhase.draw, if_neg hstatus]
  | .reading _ ⟨_ :: _, _⟩ => rfl
  | .reading _ ⟨[], true⟩ => rfl
  | .reading acc ⟨[], false⟩ =>
      simp only [goOn, FetchPhase.judged?]
      cases r.verify d guard acc <;> rfl

namespace FetchPhase

variable {p : FetchPhase α}

/-- What is known of a fetch that has gone on from an answer: what it has read is within the limit, and
together with what is to come it makes up the body. -/
inductive Follows (limit : ℕ) (answer : Except HttpFault HttpAnswer) : FetchPhase α → Prop where
  | asking : Follows limit answer (.asking answer)
  | reading {a : HttpAnswer} {acc : List UInt8} {rest : HttpBody} (ha : answer = .ok a)
      (hstatus : ¬(400 ≤ a.status ∧ a.status < 600)) (hlimit : acc.length ≤ limit)
      (hbytes : acc ++ rest.chunks.flatten = a.body.chunks.flatten)
      (hbroken : rest.broken = a.body.broken) : Follows limit answer (.reading acc rest)
  | done (o : Except ClientError α) : Follows limit answer (.done o)

/-- It is known of the fetch one step later. -/
lemma Follows.draw (h : Follows limit answer p) (url : String) :
    Follows limit answer (p.draw url limit) := by
  cases h with
  | done o => exact .done o
  | asking =>
      match answer with
      | .error f => exact .done _
      | .ok a =>
          rw [FetchPhase.draw]
          split
          · exact .done _
          · rename_i hstatus
            exact .reading rfl hstatus (Nat.zero_le limit) rfl rfl
  | @reading a acc rest ha hstatus hlimit hbytes hbroken =>
      match rest with
      | ⟨[], true⟩ => exact .done _
      | ⟨[], false⟩ => exact .reading ha hstatus hlimit hbytes hbroken
      | ⟨c :: cs, broken⟩ =>
          rw [FetchPhase.draw]
          split
          · exact .done _
          · rename_i hfits
            refine .reading ha hstatus ?_ ?_ hbroken
            · rw [List.length_append]
              omega
            · rw [← hbytes, List.flatten_cons, List.append_assoc]

lemma Follows.goOn (h : Follows limit answer p) : Follows limit answer (r.goOn limit d guard p) := by
  rw [Resource.goOn_eq]
  split
  · exact .done _
  · exact h.draw r.url

lemma follows_iterate (n : ℕ) : Follows limit answer ((r.goOn limit d guard)^[n] (.asking answer)) := by
  induction n with
  | zero => exact .asking
  | succ n ih =>
      rw [Function.iterate_succ_apply']
      exact ih.goOn

/-- Only the whole body of an answer is judged, and only if it is within the limit. -/
lemma Follows.judged (h : Follows limit answer p) (hjudged : p.judged? = some bs) :
    ∃ a, answer = .ok a ∧ ¬(400 ≤ a.status ∧ a.status < 600) ∧ a.body.broken = false ∧
      bs = a.body.chunks.flatten ∧ bs.length ≤ limit := by
  obtain rfl := judged?_eq_some_iff.mp hjudged
  cases h with
  | reading ha hstatus hlimit hbytes hbroken =>
      rw [List.flatten_nil, List.append_nil] at hbytes
      exact ⟨_, ha, hstatus, hbroken.symm, hbytes, hlimit⟩

end FetchPhase

/-! ### Two servers -/

/-- The answers have the same status, and the same bytes came through of their bodies. -/
structure HttpAnswer.SameBytes (a a' : HttpAnswer) : Prop where
  status : a.status = a'.status
  bytes : a.body.chunks.flatten = a'.body.chunks.flatten
  broken : a.body.broken = a'.body.broken

lemma Resource.ofAnswer_congr (h : a.SameBytes a') :
    r.ofAnswer limit d guard (.ok a) = r.ofAnswer limit d guard (.ok a') := by
  rw [ofAnswer_eq, ofAnswer_eq, h.status, h.bytes, h.broken]

lemma Resource.fetch_eq {σ : Type} {ex : Exchange σ} {s : σ}
    (h : (ex.answer ⟨.get, r.url, none⟩ s).1 = .answered a) :
    (r.fetch ex limit d guard s).1 =
      r.ofAnswer limit d guard (if Address.isUsable r.url then .ok a else .error .builder) := by
  have hask : (ex.ask ⟨.get, r.url, none⟩ s).1 =
      if Address.isUsable r.url then .ok a else .error .builder := by
    rw [Exchange.ask]
    split
    · generalize ex.answer ⟨.get, r.url, none⟩ s = p at h ⊢
      obtain ⟨reply, s'⟩ := p
      cases h
      rfl
    · rfl
  rw [← hask]
  rfl

/-- A body is had if it came through and is within the limit; if it is longer, or if what came through
before the transfer broke is longer already, it is too large, and otherwise the connection broke. Where it
was cut makes no difference. While a resource is fetched, nothing is ever hashed or decoded but a whole body
within the limit, at whatever moment one looks, and every other step is made without the digest, the decoder
and the guard. So what the fetch comes to depends on the status and the bytes alone, and two servers that
send the same bytes are judged alike. -/
theorem bodies_are_judged_whole :
    (∀ (b : HttpBody) (url : String) (limit : ℕ), b.readLimited url limit =
      if limit < b.chunks.flatten.length then .error (.bodyTooLarge url limit)
      else if b.broken then .error (.http .transport) else .ok b.chunks.flatten) ∧
    (∀ (b b' : HttpBody) (url : String) (limit : ℕ), b.chunks.flatten = b'.chunks.flatten →
      b.broken = b'.broken → b.readLimited url limit = b'.readLimited url limit) ∧
    ∀ {α : Type} (r : Resource) (limit : ℕ) (d : Json.Decoder α) (guard : α → Bool),
      (∀ p : FetchPhase α, r.goOn limit d guard p =
        match p.judged? with
        | some bs => .done ((r.verify d guard bs).mapError .resource)
        | none => p.draw r.url limit) ∧
      (∀ answer n bs, ((r.goOn limit d guard)^[n] (.asking answer)).judged? = some bs →
        ∃ a, answer = .ok a ∧ ¬(400 ≤ a.status ∧ a.status < 600) ∧ a.body.broken = false ∧
          bs = a.body.chunks.flatten ∧ bs.length ≤ limit) ∧
      (∀ answer n, (FetchPhase.asking answer : FetchPhase α).remaining ≤ n →
        ((r.goOn limit d guard)^[n] (.asking answer)).outcome? =
          some (r.ofAnswer limit d guard answer)) ∧
      (∀ a, r.ofAnswer limit d guard (.ok a) =
        if 400 ≤ a.status ∧ a.status < 600 then .error (.http (.status a.status))
        else if limit < a.body.chunks.flatten.length then .error (.bodyTooLarge r.url limit)
        else if a.body.broken then .error (.http .transport)
        else (r.verify d guard a.body.chunks.flatten).mapError .resource) ∧
      ∀ {σ σ' : Type} (ex : Exchange σ) (ex' : Exchange σ') (s : σ) (s' : σ') (a a' : HttpAnswer),
        (ex.answer ⟨.get, r.url, none⟩ s).1 = .answered a →
        (ex'.answer ⟨.get, r.url, none⟩ s').1 = .answered a' → a.SameBytes a' →
        (r.fetch ex limit d guard s).1 = (r.fetch ex' limit d guard s').1 := by
  refine ⟨HttpBody.readLimited_eq, ?_, ?_⟩
  · intro b b' url limit hbytes hbroken
    rw [HttpBody.readLimited_eq, HttpBody.readLimited_eq, hbytes, hbroken]
  intro α r limit d guard
  refine ⟨r.goOn_eq limit d guard, ?_, ?_, r.ofAnswer_eq limit d guard, ?_⟩
  · intro answer n bs hjudged
    exact (FetchPhase.follows_iterate n).judged hjudged
  · intro answer n henough
    have hend : ((r.goOn limit d guard)^[n] (.asking answer)).remaining = 0 := by
      have hle := FetchPhase.remaining_iterate r limit d guard n (.asking answer)
      omega
    rw [FetchPhase.outcome?_of_remaining r limit d guard hend, FetchPhase.comesTo_iterate]
    rfl
  · intro σ σ' ex ex' s s' a a' ha ha' hsame
    rw [Resource.fetch_eq ha, Resource.fetch_eq ha']
    split
    · exact Resource.ofAnswer_congr hsame
    · rfl

/-- One server sends two bytes at once and the other one by one, with nothing in between; the limit is hit
exactly, or missed by one byte. -/
theorem bodies_are_judged_whole_of_two_cuts :
    let r : Resource := ⟨"http://host/c", Sha256.digest [0x31, 0x32]⟩
    let a : HttpAnswer := ⟨200, ⟨[[0x31, 0x32]], false⟩⟩
    let a' : HttpAnswer := ⟨200, ⟨[[0x31], [], [0x32]], false⟩⟩
    let fetched (n : ℕ) : FetchPhase Json := (r.goOn 2 .ok fun _ => true)^[n] (.asking (.ok a'))
    a.SameBytes a' ∧ a.body.readLimited "u" 2 = a'.body.readLimited "u" 2 ∧
      a'.body.readLimited "u" 2 = .ok [0x31, 0x32] ∧
      a'.body.readLimited "u" 1 = .error (.bodyTooLarge "u" 1) ∧
      (fetched 4).judged? = some [0x31, 0x32] ∧
      a'.body.broken = false ∧ [0x31, 0x32] = a'.body.chunks.flatten ∧
      (fetched 5).outcome? = some (r.ofAnswer 2 .ok (fun _ => true) (.ok a')) ∧
      (r.fetch Exchange.scripted 2 .ok (fun _ : Json => true) [.answered a]).1 =
        (r.fetch Exchange.scripted 2 .ok (fun _ : Json => true) [.answered a']).1 := by
  intro r a a' fetched
  obtain ⟨hread, hcut, hfetch⟩ := bodies_are_judged_whole
  obtain ⟨-, hjudged, hends, -, hservers⟩ := hfetch r 2 Except.ok fun _ : Json => true
  have hsame : a.SameBytes a' := ⟨rfl, rfl, rfl⟩
  obtain ⟨_, ha, -, hwhole, hbytes, -⟩ := hjudged (.ok a') 4 [0x31, 0x32] rfl
  cases ha
  exact ⟨hsame, hcut _ _ "u" 2 hsame.bytes hsame.broken, hread _ "u" 2, hread _ "u" 1, rfl,
    hwhole, hbytes, hends (.ok a') 5 le_rfl, hservers _ _ _ _ a a' rfl rfl hsame⟩

end ChainElection
