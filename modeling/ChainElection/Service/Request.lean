import ChainElection.Text.Percent

/-!
Requests as the service receives them.

The path of a request is compared as it is written, escapes included; only the
part of it that names something is resolved. Of headers that are repeated the
first one counts, and one is only read if it consists of visible characters.

* `ServiceRequest.ofTarget` takes the path out of a request's target.
* `ServiceRequest.header?`, `visibleText` read headers.
-/

namespace ChainElection

/-- A request: its method, its path as written, its headers in order, and its body. -/
structure ServiceRequest where
  method : String
  path : String
  headers : List (String × List UInt8)
  body : List UInt8
  deriving DecidableEq

namespace ServiceRequest

/-- The path of a target: what stands before a query or a fragment, and behind scheme and host if they
are named. -/
def pathOf (target : String) : String :=
  let isEnd (c : Char) : Bool := c == '?' || c == '#'
  let s := target.toList.takeWhile fun c => !isEnd c
  match s with
  | '/' :: _ => String.ofList s
  | ['*'] => "*"
  | _ =>
    match s.dropWhile (· ≠ ':') with
    | ':' :: '/' :: '/' :: r =>
      let p := r.dropWhile (· ≠ '/')
      if p = [] then "/" else String.ofList p
    | _ => ""

/-- The request for a target. -/
def ofTarget (method target : String) (headers : List (String × List UInt8))
    (body : List UInt8) : ServiceRequest :=
  ⟨method, pathOf target, headers, body⟩

/-- A name of a header in small letters. -/
def headerKey (s : String) : String := String.ofList (s.toList.map Char.toLower)

/-- The first header of a name, which is given in small letters. -/
def header? (r : ServiceRequest) (name : String) : Option (List UInt8) :=
  (r.headers.find? fun h => headerKey h.1 == name).map Prod.snd

/-- Is the byte a visible character, a space or a tab? -/
def isVisible (b : UInt8) : Bool := (0x20 ≤ b && b < 0x7f) || b == 0x09

/-- The text of a header, if all of it is visible. -/
def visibleText (bs : List UInt8) : Option (List Char) :=
  if bs.all isVisible then some (bs.map fun b => Char.ofNat b.toNat) else none

end ServiceRequest

end ChainElection
