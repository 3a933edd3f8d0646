import ChainElection.Bytes.Sha256
import ChainElection.Election.Config
import ChainElection.Text.Blank

/-!
What is known of a candidate off the chain, and how it is checked.

The chain holds a digest of the bytes that describe a candidate. `verify`
compares digests before it looks at the bytes, decodes them next, and asks a
guard last; it says which of the three failed.

* `Candidate.choose` keeps the candidates whose descriptions could be had, each
  with its place in the contract's list.
-/

namespace ChainElection

/-- The description of a candidate. -/
structure CandidateDetails where
  name : String
  imageUrl : Option String
  descriptionUrl : Option String
  deriving DecidableEq, Inhabited

namespace CandidateDetails

/-- Is there a name? -/
def isWellFormed (d : CandidateDetails) : Bool := !Text.isAllBlank d.name

/-- The description as a JSON value. -/
def toJson (d : CandidateDetails) : Json :=
  Json.ofMembers
    [("name", Json.ofText d.name),
      ("imageUrl", Json.ofOption Json.ofText d.imageUrl),
      ("descriptionUrl", Json.ofOption Json.ofText d.descriptionUrl)]

/-- The members of a description that have been met so far. -/
structure Draft where
  name : Option String
  imageUrl : Option (Option String)
  descriptionUrl : Option (Option String)

/-- Takes one more member into account. -/
def Draft.step (key : String) (j : Json) (d : Draft) : Except Json.Fault Draft :=
  if key = "name" then (Json.fill Json.asText d.name j).map fun v => { d with name := v }
  else if key = "imageUrl" then
    (Json.fill (Json.asOption Json.asText) d.imageUrl j).map fun v => { d with imageUrl := v }
  else if key = "descriptionUrl" then
    (Json.fill (Json.asOption Json.asText) d.descriptionUrl j).map fun v =>
      { d with descriptionUrl := v }
  else Json.skip j d

/-- Decodes a description; the two addresses may be missing. -/
def ofJson : Json.Decoder CandidateDetails
  | .object ms => do
    let d ← Json.foldMembers Draft.step ⟨none, none, none⟩ ms
    let name ← Json.present d.name
    pure ⟨name, d.imageUrl.getD none, d.descriptionUrl.getD none⟩
  | .array js => do
    let (name, js) ← Json.next Json.asText js
    let (imageUrl, js) ← Json.nextOr (Json.asOption Json.asText) none js
    let (descriptionUrl, js) ← Json.nextOr (Json.asOption Json.asText) none js
    Json.nothingLeft js
    pure ⟨name, imageUrl, descriptionUrl⟩
  | j => .error (Json.mismatch j)

end CandidateDetails

/-! ### Verification -/

/-- Why the bytes of a resource are refused. -/
inductive ResourceFault where
  | mismatch (url expected actual : String)
  | notJson (url : String)
  | refused (url : String)
  deriving DecidableEq, Repr

/-- What is said of the fault. -/
def ResourceFault.message : ResourceFault → String
  | .mismatch url expected actual =>
    s!"checksum mismatch for {url}: expected {expected}, got {actual}"
  | .notJson url => s!"resource at {url} is not valid JSON for the expected type"
  | .refused url => s!"resource at {url} was rejected by the type guard"

/-- Checks the bytes of a resource against its digest, decodes them and asks the guard. -/
def Resource.verify {α : Type} (r : Resource) (d : Json.Decoder α) (guard : α → Bool)
    (body : List UInt8) : Except ResourceFault α :=
  let actual := Sha256.digest body
  if actual ≠ r.digest then .error (.mismatch r.url r.digestText (Hex.text actual.bytes))
  else
    match Json.decode d body with
    | .error _ => .error (.notJson r.url)
    | .ok v => if guard v then .ok v else .error (.refused r.url)

/-- A candidate whose description has been verified, with its place in the contract's list, which is
its place on a ballot too. -/
structure Candidate where
  index : Nat
  details : CandidateDetails
  deriving DecidableEq, Inhabited

/-- The candidates whose descriptions could be had, with their places from `index` on. -/
def Candidate.chooseFrom {ε : Type} (index : Nat) :
    List (Except ε CandidateDetails) → List Candidate
  | [] => []
  | .ok d :: r => ⟨index, d⟩ :: chooseFrom (index + 1) r
  | .error _ :: r => chooseFrom (index + 1) r

/-- The candidates whose descriptions could be had. -/
def Candidate.choose {ε : Type} (rs : List (Except ε CandidateDetails)) : List Candidate :=
  chooseFrom 0 rs

end ChainElection
