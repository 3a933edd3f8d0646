import ChainElection.Index.Database
import ChainElection.Service.MediaType
import ChainElection.Service.Token

/-!
The verification service: what it answers, and what a request does to its index.

Everybody may ask for the state of a submission, for an account's submissions
and for the service itself; whoever shows the token may store records. The
token is looked at before anything else of such a request. Questions from
browsers about what is allowed are answered for every path.

* `SubmissionService.answer` is the answer to a request and the service after it.
* `Route.ofPath` says which paths there are.
-/

namespace ChainElection

/-- From what the service was built. -/
structure BuildInfo where
  revision : String
  time : String
  deriving DecidableEq

/-- The service: its index, the token that lets one write to it, and its build. -/
structure SubmissionService where
  database : IndexDatabase
  token : Option String
  build : BuildInfo
  deriving DecidableEq

/-- An answer: its status and its body. -/
structure ServiceReply where
  status : Nat
  body : String
  deriving DecidableEq

namespace ServiceReply

/-- An answer without a body. -/
def blank (status : Nat) : ServiceReply := ⟨status, ""⟩

/-- The answer that says what went wrong. -/
def ofFault (f : ServiceFault) : ServiceReply :=
  ⟨f.status, (Json.ofMembers [("error", Json.ofText f.message)]).text⟩

/-- The answer with a value. -/
def ofJson (j : Json) : ServiceReply := ⟨200, j.text⟩

/-- The answer with a value, or with what went wrong. -/
def ofResult : Except ServiceFault Json → ServiceReply
  | .ok j => ofJson j
  | .error f => ofFault f

end ServiceReply

/-- What the service can be asked for. The names are as written in the path. -/
inductive Route where
  | health
  | about
  | status (hash : List Char)
  | account (name : List Char)
  | ingest
  deriving DecidableEq

namespace Route

/-- The path under which records are stored. -/
def ingestPath : String := "/submissions"

/-- What a path asks for. A name takes up the rest of the path, is not empty and has no slash. -/
def ofPath (path : String) : Option Route :=
  match Text.splitOn '/' path.toList with
  | [[], s] =>
    if s = "healthz".toList then some .health
    else if s = "meta".toList then some .about
    else if s = "submissions".toList then some .ingest
    else none
  | [[], s, name] =>
    if name = [] then none
    else if s = "submission-status".toList then some (.status name)
    else if s = "submissions".toList then some (.account name)
    else none
  | _ => none

end Route

namespace SubmissionService

/-- Answers whether the service is up. -/
def health : ServiceReply := ⟨200, "ok"⟩

/-- What is said of an index that does not do what it is told. -/
def indexFailure : ServiceFault := .internal "the submission index failed"

/-- Answers what the service is and how much it has stored. -/
def about (s : SubmissionService) : Except ServiceFault Json :=
  match s.database.count with
  | .error _ => .error indexFailure
  | .ok n =>
    .ok (Json.ofMembers [("git_hash", Json.ofText s.build.revision),
      ("build_time", Json.ofText s.build.time), ("submissions", Json.ofNat n)])

/-- Reads a transaction hash. -/
def readHash (text : String) : Except ServiceFault TransactionHash :=
  match TransactionHash.read text with
  | .error f => .error (.malformed "transaction hash" f.message)
  | .ok h => .ok h

/-- Reads an account. -/
def readAccount (text : String) : Except ServiceFault Account :=
  match Account.read text with
  | .error f => .error (.malformed "account address" f.message)
  | .ok a => .ok a

/-- Answers what is known of a submission. -/
def submissionStatus (s : SubmissionService) (text : String) : Except ServiceFault Json :=
  match readHash text with
  | .error f => .error f
  | .ok h =>
    match s.database.byHash h.text with
    | .error _ => .error indexFailure
    | .ok none => .ok .null
    | .ok (some row) =>
      match row.record with
      | .error _ => .error (.internal "reading stored submission")
      | .ok r => .ok r.toJson

/-- Answers what is known of an account's submissions. -/
def submissions (s : SubmissionService) (text : String) : Except ServiceFault Json :=
  match readAccount text with
  | .error f => .error f
  | .ok a =>
    match s.database.ofAccount a.text with
    | .error _ => .error indexFailure
    | .ok rows =>
      match SubmissionRow.records rows with
      | .error _ => .error (.internal "reading stored submissions")
      | .ok rs => .ok (.array (rs.map SubmissionRecord.toJson))

/-- The most bytes that a body may have. -/
def maxBody : Nat := 2 * 1024 * 1024

/-- The records of a body, or the status of the answer if it does not hold any. -/
def recordsOf (r : ServiceRequest) : Except Nat (List SubmissionRecord) :=
  match (r.header? "content-type").bind ServiceRequest.visibleText with
  | none => .error 415
  | some type =>
    if MediaType.isJson type then
      if maxBody < r.body.length then .error 413
      else
        match Json.decode (Json.asList SubmissionRecord.ofJson) r.body with
        | .error .grammar => .error 400
        | .error .shape => .error 422
        | .ok rs => .ok rs
    else .error 415

/-- Stores records. -/
def store (s : SubmissionService) (rs : List SubmissionRecord) :
    Except ServiceFault Json × SubmissionService :=
  match s.database.upsertBatch (rs.map SubmissionRow.ofRecord) with
  | (.error _, d) => (.error indexFailure, { s with database := d })
  | (.ok n, d) =>
    (.ok (Json.ofMembers [("status", Json.ofText "ok"), ("inserted", Json.ofNat n)]),
      { s with database := d })

/-- Stores the records of a request, if it has the right to. -/
def ingest (s : SubmissionService) (r : ServiceRequest) : ServiceReply × SubmissionService :=
  match r.authorize s.token with
  | .error f => (.ofFault f, s)
  | .ok () =>
    match recordsOf r with
    | .error status => (.blank status, s)
    | .ok rs =>
      let (result, s) := s.store rs
      (.ofResult result, s)

/-- Answers with what a name in the path stands for, if it stands for a text. -/
def named (name : List Char) (f : String → Except ServiceFault Json) : ServiceReply :=
  match Utf8.toString? (Percent.resolve name) with
  | none => .blank 400
  | some text => .ofResult (f text)

/-- Answers a question. -/
def question (s : SubmissionService) : Route → ServiceReply
  | .health => health
  | .about => .ofResult s.about
  | .status name => named name s.submissionStatus
  | .account name => named name s.submissions
  | .ingest => .blank 405

/-- The answer to a request, and the service after it. -/
def answer (s : SubmissionService) (r : ServiceRequest) : ServiceReply × SubmissionService :=
  if r.method = "OPTIONS" then (.blank 200, s)
  else
    match Route.ofPath r.path with
    | none => (.blank 404, s)
    | some .ingest => if r.method = "POST" then s.ingest r else (.blank 405, s)
    | some route =>
      if r.method = "GET" then (s.question route, s)
      else if r.method = "HEAD" then (.blank (s.question route).status, s)
      else (.blank 405, s)

end SubmissionService

end ChainElection
