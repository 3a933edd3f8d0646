import ChainElection.Service.Request

/-!
Who may write to the index: whoever shows the token.

The token stands in the first authorization header, behind the word `Bearer`
and one space. Without a token of its own the service lets nobody write.

* `ServiceRequest.bearerToken` reads the token of a request.
* `ServiceRequest.authorize` compares it.
-/

namespace ChainElection

/-- Why the service turns a request down: it is malformed, the token is not right, or what is stored
cannot be read. -/
inductive ServiceFault where
  | malformed (what details : String)
  | unauthorized
  | internal (context : String)
  deriving DecidableEq, Repr

namespace ServiceFault

/-- What is said of the fault. -/
def message : ServiceFault → String
  | .malformed what details => s!"Malformed {what}: {details}"
  | .unauthorized => "Unauthorized"
  | .internal context => s!"Internal error: {context}"

/-- The status of the answer. -/
def status : ServiceFault → Nat
  | .malformed .. => 400
  | .unauthorized => 401
  | .internal _ => 500

end ServiceFault

namespace ServiceRequest

/-- What stands in front of the token. -/
def tokenMark : List Char := "Bearer ".toList

/-- What stands behind a mark. -/
def afterMark : List Char → List Char → Option (List Char)
  | [], s => some s
  | _ :: _, [] => none
  | m :: ms, c :: r => if m = c then afterMark ms r else none

/-- The token of a request. -/
def bearerToken (r : ServiceRequest) : Except ServiceFault (List Char) :=
  match r.header? "authorization" with
  | none => .error .unauthorized
  | some bs =>
    match visibleText bs with
    | none => .error (.malformed "authorization header" "not visible ASCII")
    | some s =>
      match afterMark tokenMark s with
      | none => .error .unauthorized
      | some t => .ok t

/-- Does the request show the token? -/
def authorize (r : ServiceRequest) (token : Option String) : Except ServiceFault Unit :=
  match token with
  | none => .error .unauthorized
  | some expected =>
    match r.bearerToken with
    | .error f => .error f
    | .ok t => if t = expected.toList then .ok () else .error .unauthorized

end ServiceRequest

end ChainElection
