import ChainElection.Http.Gateway
import ChainElection.Monitor.Run
import ChainElection.Service.Answer

/-!
A deployment: monitors whose polls go over HTTP to one verification service.

Everyone may send requests to the service. A poll is answered by the service at
one moment and its answer comes to the monitor at a later one; in between, and
before, anything else may happen. A connection may break, and then the monitor
gets an error.

* `SubmissionService.at` is the service as the far end of HTTP requests.
* `Deployment.act` is one event of a deployment, `Deployment.run` a sequence of
  them.
-/

namespace ChainElection

/-! ### The service behind HTTP -/

/-- The method as it is written in a request. -/
def HttpMethod.text : HttpMethod → String
  | .get => "GET"
  | .post => "POST"

/-- The request as it comes to a server, with a target on it. -/
def HttpRequest.arriving (r : HttpRequest) (target : String) : ServiceRequest :=
  match r.body with
  | none => .ofTarget r.method.text target [] []
  | some j =>
    .ofTarget r.method.text target [("content-type", Utf8.ofString "application/json")] j.render

/-- The service at an origin. It gets what stands behind the origin in an address; what does not begin
with the origin does not come to it. -/
def SubmissionService.at (origin : String) : Exchange SubmissionService :=
  ⟨fun r s =>
    if origin.toList <+: r.url.toList then
      let target := String.ofList (r.url.toList.drop origin.toList.length)
      let (reply, s) := s.answer (r.arriving target)
      (.answered ⟨reply.status, .whole (Utf8.ofString reply.body)⟩, s)
    else (.closed, s)⟩

/-! ### Deployments -/

/-- Monitors, the service that they poll, and the answers that are on their way to them. -/
structure Deployment where
  tracker : Tracker
  service : SubmissionService
  gateway : VerifierGateway
  answers : Table Nat (Except ClientError (Option SubmissionRecord))

/-- What can happen in a deployment: something among the monitors, a request from anyone, the service's
answer to the poll of a monitor, and the arrival of that answer. -/
inductive DeploymentAction where
  | track (x : TrackerAction)
  | request (r : ServiceRequest)
  | serve (monitor : Nat)
  | deliver (monitor : Nat)

/-- Is a monitor told what the verification service answered? -/
def TrackerAction.isAnswer : TrackerAction → Bool
  | .step _ (.answered (.ok _)) => true
  | _ => false

/-- Is the monitor waiting for the answer to a poll? -/
def Monitor.isPolling (m : Monitor) : Bool :=
  match m.phase with
  | .polling _ => true
  | _ => false

namespace Deployment

/-- The service answers the poll of a monitor, unless it has done so already. -/
def serve (d : Deployment) (id : Nat) : Option Deployment :=
  match d.tracker.monitors.get? id, d.answers.get? id with
  | some m, none =>
    if m.isPolling then
      let (answer, service) :=
        d.gateway.submissionStatus (SubmissionService.at d.gateway.base) m.hash d.service
      some { d with service := service, answers := d.answers.set id answer }
    else none
  | _, _ => none

/-- The answer to a poll comes to its monitor. -/
def deliver (d : Deployment) (id : Nat) : Option Deployment :=
  match d.answers.get? id with
  | none => none
  | some answer =>
    (d.tracker.step id (.answered answer)).map fun t =>
      { d with tracker := t, answers := d.answers.erase id }

/-- The deployment after one event; nothing if it cannot happen. Only the service answers polls. -/
def act (d : Deployment) : DeploymentAction → Option Deployment
  | .track x => if x.isAnswer then none else (d.tracker.act x).map fun t => { d with tracker := t }
  | .request r => some { d with service := (d.service.answer r).2 }
  | .serve id => d.serve id
  | .deliver id => d.deliver id

/-- The deployment after a sequence of events. -/
def run (d : Deployment) : List DeploymentAction → Option Deployment
  | [] => some d
  | x :: r => (d.act x).bind fun d => d.run r

/-- A deployment whose tracker has nothing to do and whose service has an empty index. -/
def initial (settings : TrackerSettings) (store : SubmissionStore) (gateway : VerifierGateway)
    (token : Option String) (build : BuildInfo) : Deployment :=
  ⟨.empty settings store, ⟨IndexDatabase.blank.migrate.2, token, build⟩, gateway, .empty⟩

end Deployment

end ChainElection
