import ChainElection.Client.Error
import ChainElection.Http.Address

/-!
Requests over HTTP and what comes back.

A server answers with a status and a body, or breaks the connection. A body
comes in chunks, and the transfer may break after some of them. An `Exchange`
is anything that answers requests; its state is whatever it remembers.

A reply is what the HTTP library hands over for one request that it was told to
send. Where a server redirects, the library follows by itself, up to its own
limit, and the reply is the last one; the requests in between are not seen here.

* `Exchange.ask` refuses addresses that cannot be used before anything is sent.
* `HttpBody.readLimited` reads a body up to a limit, whichever way it is cut.
* `Exchange.refusing` breaks every connection, `Exchange.scripted` answers from
  a list.
* `Exchange.recorded` keeps a log of what was sent and what came back.
-/

namespace ChainElection

/-- What a request asks for. -/
inductive HttpMethod where
  | get
  | post
  deriving DecidableEq, Repr

/-- A request: its method, its address, and its body as a JSON value. -/
structure HttpRequest where
  method : HttpMethod
  url : String
  body : Option Json

/-- The body of an answer: its chunks, and whether the transfer broke after them. -/
structure HttpBody where
  chunks : List (List UInt8)
  broken : Bool
  deriving DecidableEq, Inhabited

/-- An answer. -/
structure HttpAnswer where
  status : Nat
  body : HttpBody
  deriving DecidableEq, Inhabited

/-- What comes back: an answer, or a connection that is closed without one. -/
inductive HttpReply where
  | closed
  | answered (a : HttpAnswer)
  deriving DecidableEq, Inhabited

namespace HttpBody

/-- The body that comes in one piece. -/
def whole (bs : List UInt8) : HttpBody := ⟨[bs], false⟩

/-- All bytes of a body that came through. -/
def bytes? (b : HttpBody) : Except HttpFault (List UInt8) :=
  if b.broken then .error .transport else .ok b.chunks.flatten

/-- Reads chunks onto `acc`, which is not to grow beyond the limit. -/
def readChunks (url : String) (limit : Nat) (broken : Bool) (acc : List UInt8) :
    List (List UInt8) → Except ClientError (List UInt8)
  | [] => if broken then .error (.http .transport) else .ok acc
  | c :: r =>
    if limit < acc.length + c.length then .error (.bodyTooLarge url limit)
    else readChunks url limit broken (acc ++ c) r

/-- Reads a body, which may not have more bytes than the limit. The address is the one that is named if it
has. -/
def readLimited (b : HttpBody) (url : String) (limit : Nat) : Except ClientError (List UInt8) :=
  readChunks url limit b.broken [] b.chunks

end HttpBody

namespace HttpAnswer

/-- Refuses the answers by which a server says that something went wrong. -/
def success? (a : HttpAnswer) : Except HttpFault HttpAnswer :=
  if 400 ≤ a.status ∧ a.status < 600 then .error (.status a.status) else .ok a

/-- The JSON value of the body. -/
def json? {α : Type} (a : HttpAnswer) (d : Json.Decoder α) : Except HttpFault α :=
  match a.body.bytes? with
  | .error f => .error f
  | .ok bs =>
    match Json.decode d bs with
    | .error _ => .error .decode
    | .ok v => .ok v

/-- The JSON value of the body, unless the server says that something went wrong. -/
def expect {α : Type} (a : HttpAnswer) (d : Json.Decoder α) : Except HttpFault α :=
  match a.success? with
  | .error f => .error f
  | .ok a => a.json? d

end HttpAnswer

/-- A request that was sent, and what came back. -/
structure Exchanged where
  request : HttpRequest
  reply : HttpReply

/-- Anything that answers requests. -/
structure Exchange (σ : Type) where
  answer : HttpRequest → σ → HttpReply × σ

namespace Exchange

variable {σ : Type}

/-- Asks for an answer. -/
def ask (ex : Exchange σ) (r : HttpRequest) : StateM σ (Except HttpFault HttpAnswer) := fun s =>
  if Address.isUsable r.url then
    match ex.answer r s with
    | (.closed, s) => (.error .transport, s)
    | (.answered a, s) => (.ok a, s)
  else (.error .builder, s)

/-- Asks for a JSON value. -/
def askFor {α : Type} (ex : Exchange σ) (r : HttpRequest) (d : Json.Decoder α) :
    StateM σ (Except ClientError α) := do
  match ← ex.ask r with
  | .error f => pure (.error (.http f))
  | .ok a =>
    match a.expect d with
    | .error f => pure (.error (.http f))
    | .ok v => pure (.ok v)

/-- The exchange that breaks every connection. -/
def refusing : Exchange Unit := ⟨fun _ s => (.closed, s)⟩

/-- The exchange that answers from a list, and breaks the connection when it is used up. -/
def scripted : Exchange (List HttpReply) :=
  ⟨fun _ s => match s with
    | [] => (.closed, [])
    | r :: rs => (r, rs)⟩

/-- The exchange that answers like another one and keeps a log, the oldest first. -/
def recorded (ex : Exchange σ) : Exchange (σ × List Exchanged) :=
  ⟨fun r s =>
    let (reply, after) := ex.answer r s.1
    (reply, (after, s.2 ++ [⟨r, reply⟩]))⟩

end Exchange

end ChainElection
