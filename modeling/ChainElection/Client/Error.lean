import ChainElection.Election.Ballot
import ChainElection.Election.Candidate
import ChainElection.Submission.Status

/-!
What can go wrong for a client of the election.

Each cause carries what its message needs. Some causes are only told apart
from the others and have no text of their own: a text that is no JSON for the
expected type, a store that fails.
-/

namespace ChainElection

/-- How a request over HTTP failed: the server refused it, the body is not the expected JSON, the
address cannot be used, or the connection broke. -/
inductive HttpFault where
  | status (code : Nat)
  | decode
  | builder
  | transport
  deriving DecidableEq, Repr

/-- The word for the fault. -/
def HttpFault.text : HttpFault → String
  | .status code => s!"status {code}"
  | .decode => "decode"
  | .builder => "builder"
  | .transport => "transport"

/-- What can go wrong for a client. -/
inductive ClientError where
  | resource (f : ResourceFault)
  | http (f : HttpFault)
  | bodyTooLarge (url : String) (limit : Nat)
  | json
  | storage
  | io
  | dryRunFailed (entrypoint reason : String)
  | malformedReturnValue (entrypoint details : String)
  | node (text : String)
  | walletRejected (text : String)
  | invalidBallot (f : BallotFault)
  | electionClosed (phase : Phase)
  | notConnected
  | illegalTransition (hash : TransactionHash) (old new : SubmissionStatus)
  | workerGone
  deriving DecidableEq

/-- What is said of the error. -/
def ClientError.message : ClientError → String
  | .resource f => f.message
  | .http f => s!"http error: {f.text}"
  | .bodyTooLarge url limit => s!"response body from {url} exceeds {limit} bytes"
  | .json => "json error"
  | .storage => "storage error"
  | .io => "io error"
  | .dryRunFailed entrypoint reason => s!"dry run of {entrypoint} failed: {reason}"
  | .malformedReturnValue entrypoint details =>
    s!"malformed return value from {entrypoint}: {details}"
  | .node text => s!"node error: {text}"
  | .walletRejected text => s!"wallet rejected the transaction: {text}"
  | .invalidBallot f => s!"invalid ballot: {f.message}"
  | .electionClosed phase => s!"election is not accepting ballots ({phase.text})"
  | .notConnected => "no wallet connected"
  | .illegalTransition hash old new =>
    s!"illegal status transition for {hash.text}: {old.text} -> {new.text}"
  | .workerGone => "decode worker is gone"

end ChainElection
