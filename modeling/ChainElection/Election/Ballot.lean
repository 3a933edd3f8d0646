import ChainElection.Binary.Codec
import ChainElection.Text.Blank
import ChainElection.Text.Lowercase
import ChainElection.Text.Outline

/-!
Ballots: for each candidate, in the order of the contract, whether they are
selected.

* `Ballot.of` and `Ballot.single` make ballots that are not empty.
* `Selection.read` reads selections from a text such as `true,false,false`: the
  parts between the commas, one for each candidate.
-/

namespace ChainElection

/-- The selections of a ballot. -/
structure Ballot where
  selections : List Bool
  deriving DecidableEq, Inhabited

/-- Why a ballot cannot be cast. -/
inductive BallotFault where
  | noCandidates
  | outOfRange (index count : Nat)
  | miscounted (selections candidates : Nat)
  deriving DecidableEq, Repr

/-- What is said of the fault. -/
def BallotFault.message : BallotFault → String
  | .noCandidates => "no candidates"
  | .outOfRange i n => s!"candidate {i} out of range for {n} candidates"
  | .miscounted s n => s!"{s} selections for {n} candidates"

namespace Ballot

/-- The ballot with the given selections. -/
def of (selections : List Bool) : Except BallotFault Ballot :=
  if selections.isEmpty then .error .noCandidates else .ok ⟨selections⟩

/-- The ballot that selects one of a number of candidates. -/
def single (index count : Nat) : Except BallotFault Ballot :=
  if count ≤ index then .error (.outOfRange index count)
  else of ((List.range count).map (· == index))

/-- The ballot's outline. -/
def outline (b : Ballot) : Outline :=
  .record "Ballot"
    [("selections", .list (b.selections.map fun s => .atom (if s then "true" else "false")))]

/-- The ballot's binary form. -/
def codec : Binary.Codec Ballot :=
  (Binary.Codec.list Binary.Codec.bool).rename Ballot.mk Ballot.selections

end Ballot

/-! ### Selections as texts -/

namespace Selection

/-- The part of a selection text, as it is compared: without blanks around it, in lower case. -/
def normal (s : List Char) : List Char := Text.lowercase (Text.trim s)

/-- What one part says, or the normal form of a part that says nothing. -/
def readEntry (s : List Char) : Except (List Char) Bool :=
  let t := normal s
  if t = "true".toList ∨ t = "1".toList ∨ t = "x".toList then .ok true
  else if t = "false".toList ∨ t = "0".toList ∨ t = [] then .ok false
  else .error t

/-- What is said of a part that says nothing. -/
def message (part : List Char) : String := s!"invalid selection entry: {String.ofList part}"

/-- What all parts say, in their order, or the first that says nothing. -/
def readEntries : List (List Char) → Except (List Char) (List Bool)
  | [] => .ok []
  | p :: ps =>
    match readEntry p with
    | .error e => .error e
    | .ok b => (readEntries ps).map (b :: ·)

/-- The selections of a text. -/
def read (s : String) : Except (List Char) (List Bool) :=
  readEntries (Text.splitOn ',' s.toList)

end Selection

end ChainElection
