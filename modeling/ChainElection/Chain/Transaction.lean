import ChainElection.Chain.Account

/-!
Transactions of the chain.

A transaction is known by its hash, written in lower-case hexadecimal digits
and read in either case, with or without `0x` in front. Once it is finalized it
has an outcome: it succeeded, or it failed for a reason.
-/

namespace ChainElection

/-- The hash of a transaction. -/
structure TransactionHash where
  digest : Bytes32
  deriving DecidableEq, Inhabited

namespace TransactionHash

/-- The hash in hexadecimal digits. -/
def text (h : TransactionHash) : String := Hex.text h.digest.bytes

/-- The hash that a text denotes. -/
def read (s : String) : Except KeyFault TransactionHash :=
  (Bytes32.ofHex s).map TransactionHash.mk

/-- The hash's outline. -/
def outline (h : TransactionHash) : Outline := .atom s!"TransactionHash({h.text})"

/-- The hash's binary form. -/
def codec : Binary.Codec TransactionHash :=
  Binary.Codec.block.rename TransactionHash.mk TransactionHash.digest

/-- The hash as a JSON value. -/
def toJson (h : TransactionHash) : Json := Json.ofText h.text

/-- Decodes a hash. -/
def ofJson : Json.Decoder TransactionHash := Json.asParsed fun s => (read s).toOption

end TransactionHash

/-- How a finalized transaction ended. -/
inductive TransactionOutcome where
  | success
  | failure (reason : String)
  deriving DecidableEq, Repr

namespace TransactionOutcome

/-- The outcome as a JSON value. -/
def toJson : TransactionOutcome → Json
  | .success => Json.ofMembers [("outcome", Json.ofText "success")]
  | .failure reason =>
    Json.ofMembers [("outcome", Json.ofText "failure"), ("reason", Json.ofText reason)]

/-- Decodes the reason of a failure. -/
def reasonOfJson : Json.Decoder String
  | .object ms => do
    let slot ← Json.foldMembers (σ := Option String) (fun key j slot =>
      if key = "reason" then Json.fill Json.asText slot j else Json.skip j slot) none ms
    Json.present slot
  | .array js => do
    let (reason, js) ← Json.next Json.asText js
    Json.nothingLeft js
    pure reason
  | j => .error (Json.mismatch j)

/-- Decodes a value that carries nothing: any object, or an empty array. -/
def nothingOfJson : Json.Decoder Unit
  | .object _ => .ok ()
  | .array js => Json.nothingLeft js
  | j => .error (Json.mismatch j)

/-- Decodes an outcome. -/
def ofJson : Json.Decoder TransactionOutcome := fun j => do
  let (tag, rest) ← Json.tagged "outcome" j
  if tag = "success" then (nothingOfJson rest).map fun _ => .success
  else if tag = "failure" then (reasonOfJson rest).map .failure
  else .error .shape

end TransactionOutcome

end ChainElection
