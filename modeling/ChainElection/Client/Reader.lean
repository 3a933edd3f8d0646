import ChainElection.Client.Node
import ChainElection.Election.Tally

/-!
Reading the contract's views.

A view is a simulated call without parameter. One that fails is not available
yet; one that succeeds has to return a value of the view's type, of which
nothing may be left over.

* `ElectionContract.viewRequest`, `View.interpret`: the call and what its
  answer means.
* `View.shown` is what an answer shows as a value of the view's own type,
  `View.config?` and its companions are this for each of the views.
-/

namespace ChainElection

/-- The simulated call that shows a view. -/
def ElectionContract.viewRequest (c : ElectionContract) (v : View) : InvokeRequest where
  contract := c.address
  receiveName := c.receiveName v.entrypoint
  parameter := []
  invoker := none
  amount := 0

namespace View

/-- The type of the values that a view shows. -/
abbrev Shown : View → Type
  | .config => ElectionConfig
  | .guardians => Guardians
  | .tally => EncryptedTally
  | .result => ElectionResult

/-- The value of a view's own type, if it is of that type what was decoded. -/
def pick? : (v : View) → Viewed → Option v.Shown
  | .config, .config c => some c
  | .guardians, .guardians gs => some gs
  | .tally, .tally t => some t
  | .result, .result r => some r
  | _, _ => none

/-- The bytes that a view's call has returned, or nothing if the view is not available. -/
def returned (v : View) : Except ClientError InvokeResult →
    Except ClientError (Option (List UInt8))
  | .error e => .error e
  | .ok (.failure _ _) => .ok none
  | .ok (.success _ none) =>
    .error (.malformedReturnValue v.entrypoint "missing return value")
  | .ok (.success _ (some bs)) => .ok (some bs)

/-- What a view shows, from the result of decoding its bytes. -/
def decoded (v : View) : Except Binary.Fault Viewed → Except ClientError Viewed
  | .ok x => .ok x
  | .error f => .error (.malformedReturnValue v.entrypoint f.message)

/-- What the answer to a view's call shows, or nothing if the view is not available. -/
def interpret (v : View) (answer : Except ClientError InvokeResult) :
    Except ClientError (Option Viewed) :=
  match v.returned answer with
  | .error e => .error e
  | .ok none => .ok none
  | .ok (some bs) => (v.decoded (v.decode bs)).map some

/-- What is reported if decoding has shown something else than was asked for. -/
def unexpected (v : View) (x : Viewed) : ClientError :=
  .malformedReturnValue v.entrypoint s!"decoder produced {x.outline.line}"

/-- Takes what a view shows for a value of the view's own type. -/
def narrow (v : View) : Except ClientError (Option Viewed) → Except ClientError (Option v.Shown)
  | .error e => .error e
  | .ok none => .ok none
  | .ok (some x) =>
    match v.pick? x with
    | some y => .ok (some y)
    | none => .error (v.unexpected x)

/-- The value that the answer to a view's call shows, or nothing if the view is not available. -/
def shown (v : View) (answer : Except ClientError InvokeResult) :
    Except ClientError (Option v.Shown) :=
  v.narrow (v.interpret answer)

/-- The configuration that the answer to its view shows. -/
def config? : Except ClientError InvokeResult → Except ClientError (Option ElectionConfig) :=
  View.config.shown

/-- The guardians that the answer to their view shows. -/
def guardians? : Except ClientError InvokeResult → Except ClientError (Option Guardians) :=
  View.guardians.shown

/-- The encrypted tally that the answer to its view shows. -/
def tally? : Except ClientError InvokeResult → Except ClientError (Option EncryptedTally) :=
  View.tally.shown

/-- The result that the answer to its view shows. -/
def result? : Except ClientError InvokeResult → Except ClientError (Option ElectionResult) :=
  View.result.shown

end View

end ChainElection
