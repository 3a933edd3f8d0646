import ChainElection.Service.Answer

/-!
The service over time: requests one after the other.

* `SubmissionService.run`: the answers to a sequence of requests, and the
  service after them.
-/

namespace ChainElection.SubmissionService

/-- The answers to requests, one after the other, and the service after the last of them. -/
def run (s : SubmissionService) : List ServiceRequest → List ServiceReply × SubmissionService
  | [] => ([], s)
  | r :: rs =>
    let (reply, s) := s.answer r
    let (replies, s) := s.run rs
    (reply :: replies, s)

end ChainElection.SubmissionService
