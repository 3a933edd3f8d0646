import ChainElection.Http.Gateway

/-!
The descriptions of all candidates, fetched at once.

All requests are sent before the first answer is waited for. Which fetch goes on
next is not for the client to say: an answer comes, or a chunk of a body, or a
body ends or breaks. Only when the last fetch is over are the outcomes looked
at, and then in the order of the contract's list.

* `FetchPhase` is how far one fetch is, `Resource.goOn` what becomes of it once
  something has come.
* `Gathering.run` lets the fetches go on as a schedule says, each entry of which
  is the place of the one that goes on next.
* `Gathering.candidates?` is what is listed in the end.
* `Exchange.askAll` asks for one resource after the other instead.
-/

namespace ChainElection

/-- How far the fetch of a resource is: it waits for the answer, it has read a part of the body and waits
for the rest of it, or it is over. What is going to come is kept with it. -/
inductive FetchPhase (α : Type) where
  | asking (answer : Except HttpFault HttpAnswer)
  | reading (acc : List UInt8) (rest : HttpBody)
  | done (outcome : Except ClientError α)

namespace FetchPhase

variable {α : Type}

/-- The outcome of a fetch that is over. -/
def outcome? : FetchPhase α → Option (Except ClientError α)
  | .done o => some o
  | _ => none

/-- How often a fetch can still go on. -/
def remaining : FetchPhase α → Nat
  | .asking (.error _) => 1
  | .asking (.ok a) => a.body.chunks.length + 2
  | .reading _ rest => rest.chunks.length + 1
  | .done _ => 0

end FetchPhase

namespace Resource

variable {α : Type}

/-- What becomes of the fetch of a resource once something has come. The address of a body that is too
large is the one that `ofAnswer` names. -/
def goOn (r : Resource) (limit : Nat) (d : Json.Decoder α) (guard : α → Bool) :
    FetchPhase α → FetchPhase α
  | .asking (.error f) => .done (.error (.http f))
  | .asking (.ok a) =>
    match a.success? with
    | .error f => .done (.error (.http f))
    | .ok a => .reading [] a.body
  | .reading acc ⟨c :: rest, broken⟩ =>
    if limit < acc.length + c.length then .done (.error (.bodyTooLarge r.url limit))
    else .reading (acc ++ c) ⟨rest, broken⟩
  | .reading _ ⟨[], true⟩ => .done (.error (.http .transport))
  | .reading acc ⟨[], false⟩ =>
    match r.verify d guard acc with
    | .error f => .done (.error (.resource f))
    | .ok v => .done (.ok v)
  | .done o => .done o

end Resource

/-- The fetch of a candidate's description. -/
structure CandidateFetch where
  resource : Resource
  phase : FetchPhase CandidateDetails

/-- The fetch once something has come. -/
def CandidateFetch.goOn (limit : Nat) (f : CandidateFetch) : CandidateFetch :=
  { f with
    phase := f.resource.goOn limit CandidateDetails.ofJson CandidateDetails.isWellFormed f.phase }

/-- The fetches of all candidates, in the order of the contract's list. -/
structure Gathering where
  fetches : List CandidateFetch

namespace Gathering

/-- All requests are sent. What is going to come back is given by the candidates' places. -/
def start (rs : List Resource) (answers : Nat → Except HttpFault HttpAnswer) : Gathering :=
  ⟨rs.mapIdx fun i r => ⟨r, .asking (answers i)⟩⟩

/-- One fetch goes on. -/
def goOn (limit : Nat) (g : Gathering) (i : Nat) : Gathering :=
  ⟨g.fetches.modify i (CandidateFetch.goOn limit)⟩

/-- The fetches go on as a schedule says. -/
def run (limit : Nat) (g : Gathering) (schedule : List Nat) : Gathering :=
  schedule.foldl (goOn limit) g

/-- The outcomes of fetches, in order, once all of them are over. -/
def outcomes? : List CandidateFetch → Option (List (Except ClientError CandidateDetails))
  | [] => some []
  | f :: fs =>
    match f.phase.outcome?, outcomes? fs with
    | some o, some os => some (o :: os)
    | _, _ => none

/-- The candidates that are listed once all fetches are over. -/
def candidates? (g : Gathering) : Option (List Candidate) := (outcomes? g.fetches).map Candidate.choose

end Gathering

/-- Asks for resources, one after the other. -/
def Exchange.askAll {σ : Type} (ex : Exchange σ) :
    List Resource → StateM σ (List (Except HttpFault HttpAnswer))
  | [] => pure []
  | r :: rs => do
    let a ← ex.ask ⟨.get, r.url, none⟩
    pure (a :: (← ex.askAll rs))

end ChainElection
