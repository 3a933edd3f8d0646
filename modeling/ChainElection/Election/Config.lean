import ChainElection.Chain.Account
import ChainElection.Election.Moment
import ChainElection.Election.Resource

/-!
The configuration of an election, as the contract holds it, and the phase that
an election is in.

An election is in setup before its start, accepts ballots until its end, is
tallied until the deadline of decryption, and is finished from then on. A bound
that has passed is never looked at again, so a window whose bounds are out of
order has no phase between them.
-/

namespace ChainElection

/-- Who may vote: the window in which voting weight is measured, and the list with the weights. -/
structure EligibleVoters where
  windowStart : Moment
  windowEnd : Moment
  data : Resource
  deriving DecidableEq, Inhabited

namespace EligibleVoters

/-- The outline of the eligible voters. -/
def outline (v : EligibleVoters) : Outline :=
  .record "EligibleVoters"
    [("parameters", .record "EligibilityParameters"
        [("start_time", v.windowStart.outline), ("end_time", v.windowEnd.outline)]),
      ("data", v.data.outline)]

/-- The binary form of the eligible voters. -/
def codec : Binary.Codec EligibleVoters :=
  (Moment.codec.pair (Moment.codec.pair Resource.codec)).rename
    (fun p => ⟨p.1, p.2.1, p.2.2⟩) fun v => (v.windowStart, v.windowEnd, v.data)

end EligibleVoters

/-- The configuration of an election. The delegation mark is what a memo starts with that delegates
a vote. -/
structure ElectionConfig where
  admin : Account
  manifest : Resource
  parameters : Resource
  guardians : List Account
  voters : EligibleVoters
  description : String
  candidates : List Resource
  start : Moment
  finish : Moment
  deadline : Moment
  delegationMark : String
  deriving DecidableEq, Inhabited

/-- The phases of an election, in their order. -/
inductive Phase where
  | setup
  | voting
  | tally
  | finished
  deriving DecidableEq, Repr

namespace Phase

/-- The phase's name. -/
def text : Phase → String
  | .setup => "Setup"
  | .voting => "Voting"
  | .tally => "Tally"
  | .finished => "Finished"

/-- The phase's place in the order. -/
def rank : Phase → Nat
  | .setup => 0
  | .voting => 1
  | .tally => 2
  | .finished => 3

end Phase

namespace ElectionConfig

/-- The phase at a moment. -/
def phaseAt (c : ElectionConfig) (m : Moment) : Phase :=
  if m.millis < c.start.millis then .setup
  else if m.millis < c.finish.millis then .voting
  else if m.millis < c.deadline.millis then .tally
  else .finished

/-- The phase at an instant. -/
def phase (c : ElectionConfig) (now : Instant) : Phase := c.phaseAt (Moment.ofInstant now)

/-- The configuration's outline. -/
def outline (c : ElectionConfig) : Outline :=
  .record "ElectionConfig"
    [("admin_account", c.admin.outline),
      ("election_manifest", c.manifest.outline),
      ("election_parameters", c.parameters.outline),
      ("guardian_accounts", .list (c.guardians.map Account.outline)),
      ("eligible_voters", c.voters.outline),
      ("election_description", .atom (Text.quoteText c.description)),
      ("candidates", .list (c.candidates.map Resource.outline)),
      ("election_start", c.start.outline),
      ("election_end", c.finish.outline),
      ("decryption_deadline", c.deadline.outline),
      ("delegation_string", .atom (Text.quoteText c.delegationMark))]

/-- The configuration's binary form. -/
def codec : Binary.Codec ElectionConfig :=
  open Binary.Codec in
  (Account.codec.pair <| Resource.codec.pair <| Resource.codec.pair <|
    (list Account.codec).pair <| EligibleVoters.codec.pair <| text.pair <|
    (list Resource.codec).pair <| Moment.codec.pair <| Moment.codec.pair <|
    Moment.codec.pair text).rename
    (fun (a, b, c, d, e, f, g, h, i, j, k) => ⟨a, b, c, d, e, f, g, h, i, j, k⟩)
    fun c => (c.admin, c.manifest, c.parameters, c.guardians, c.voters, c.description,
      c.candidates, c.start, c.finish, c.deadline, c.delegationMark)

end ElectionConfig

end ChainElection
