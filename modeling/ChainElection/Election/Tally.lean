import ChainElection.Election.Guardian
import ChainElection.Text.Lowercase

/-!
The end of an election: the encrypted tally and the result, each absent until
it has been posted, and the four views that the contract offers.

* `View` names a view, `Viewed` is what one shows.
* `View.decode` reads a view's return value, of which nothing may be left.
-/

namespace ChainElection

/-- The encrypted tally, once posted. -/
abbrev EncryptedTally : Type := Option (List UInt8)

namespace EncryptedTally

/-- The tally's outline. -/
def outline (t : EncryptedTally) : Outline := .ofOption .ofBytes t

/-- The tally's binary form. -/
def codec : Binary.Codec EncryptedTally := .option .bytes

end EncryptedTally

/-- The votes that a candidate has got. -/
structure CandidateResult where
  candidate : Resource
  votes : UInt64
  deriving DecidableEq, Inhabited

namespace CandidateResult

/-- The outline of a candidate's votes. -/
def outline (r : CandidateResult) : Outline :=
  .record "CandidateResult"
    [("candidate", r.candidate.outline), ("cumulative_votes", .ofNat r.votes.toNat)]

/-- The binary form of a candidate's votes. -/
def codec : Binary.Codec CandidateResult :=
  (Resource.codec.pair Binary.Codec.word64).rename (fun p => ⟨p.1, p.2⟩)
    fun r => (r.candidate, r.votes)

end CandidateResult

/-- The result, once posted. -/
abbrev ElectionResult : Type := Option (List CandidateResult)

namespace ElectionResult

/-- The result's outline. -/
def outline (r : ElectionResult) : Outline :=
  .ofOption (fun cs => .list (cs.map CandidateResult.outline)) r

/-- The result's binary form. -/
def codec : Binary.Codec ElectionResult := .option (.list CandidateResult.codec)

end ElectionResult

/-! ### Views -/

/-- The views of the contract. -/
inductive View where
  | config
  | guardians
  | tally
  | result
  deriving DecidableEq, Repr

/-- What a view shows. -/
inductive Viewed where
  | config (c : ElectionConfig)
  | guardians (gs : Guardians)
  | tally (t : EncryptedTally)
  | result (r : ElectionResult)
  deriving DecidableEq

namespace View

/-- The view's entry point. -/
def entrypoint : View → String
  | .config => "viewConfig"
  | .guardians => "viewGuardiansState"
  | .tally => "viewEncryptedTally"
  | .result => "viewElectionResult"

/-- The name that people give the view. -/
def title : View → String
  | .config => "Config"
  | .guardians => "Guardians"
  | .tally => "EncryptedTally"
  | .result => "ElectionResult"

/-- The view that a text asks for, in letters of either case. -/
def read? (s : String) : Option View :=
  let t := Text.lowercase s.toList
  if t = "config".toList then some .config
  else if t = "guardians".toList then some .guardians
  else if t = "tally".toList then some .tally
  else if t = "result".toList then some .result
  else none

/-- What is said of a text that asks for no view. -/
def unknownMessage (s : String) : String := s!"invalid view type: {s}"

/-- Reads a view's return value. -/
def decode (v : View) (bs : List UInt8) : Except Binary.Fault Viewed :=
  match v with
  | .config => (ElectionConfig.codec.decodeAll bs).map .config
  | .guardians => (Guardians.codec.decodeAll bs).map .guardians
  | .tally => (EncryptedTally.codec.decodeAll bs).map .tally
  | .result => (ElectionResult.codec.decodeAll bs).map .result

end View

/-- The outline of what a view shows. -/
def Viewed.outline : Viewed → Outline
  | .config c => .group "Config" [c.outline]
  | .guardians gs => .group "GuardiansState" [gs.outline]
  | .tally t => .group "EncryptedTally" [t.outline]
  | .result r => .group "ElectionResult" [r.outline]

end ChainElection
