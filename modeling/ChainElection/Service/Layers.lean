import ChainElection.Service.Answer

/-!
The service in layers: what answers browsers, a check of the token, and a router.

The router knows which paths there are and asks for no token. The check stands
in front of it and tells by itself, from the method and the path as they are
written, which requests need one. `SubmissionService.answer` does both at once.

* `SubmissionService.routed` is the router, `SubmissionService.checked` the
  check, and `SubmissionService.layered` the whole.
-/

namespace ChainElection.SubmissionService

/-- Stores the records of a request, whoever sent it. -/
def storeBody (s : SubmissionService) (r : ServiceRequest) : ServiceReply × SubmissionService :=
  match recordsOf r with
  | .error status => (.blank status, s)
  | .ok rs =>
    let (result, s) := s.store rs
    (.ofResult result, s)

/-- Hands a request to what its path and its method stand for. -/
def routed (s : SubmissionService) (r : ServiceRequest) : ServiceReply × SubmissionService :=
  match Route.ofPath r.path with
  | none => (.blank 404, s)
  | some .ingest => if r.method = "POST" then s.storeBody r else (.blank 405, s)
  | some route =>
    if r.method = "GET" then (s.question route, s)
    else if r.method = "HEAD" then (.blank (s.question route).status, s)
    else (.blank 405, s)

/-- Lets a request pass to the next layer, if it needs no token or shows the right one. -/
def checked (s : SubmissionService) (r : ServiceRequest)
    (next : ServiceRequest → ServiceReply × SubmissionService) : ServiceReply × SubmissionService :=
  if r.method ≠ "POST" ∨ r.path ≠ "/submissions" then next r
  else
    match r.authorize s.token with
    | .error f => (.ofFault f, s)
    | .ok () => next r

/-- The answer to a request and the service after it, layer by layer. -/
def layered (s : SubmissionService) (r : ServiceRequest) : ServiceReply × SubmissionService :=
  if r.method = "OPTIONS" then (.blank 200, s) else s.checked r s.routed

end ChainElection.SubmissionService
