import ChainElection.Binary.Codec
import ChainElection.Bytes.Base58
import ChainElection.Bytes.Hex
import ChainElection.Json.Decoder
import ChainElection.Text.Outline

/-!
Accounts of the chain.

An account is known by a key of 32 bytes, which people read and write in
base58. `KeyFault` is what can be wrong with the text of a key, be it an
account or the hash of a transaction.
-/

namespace ChainElection

/-- Why a text is not a key of 32 bytes. -/
inductive KeyFault where
  | base58 (f : Base58.Fault)
  | hex (f : Hex.Fault)
  | length (n : Nat)
  deriving DecidableEq, Repr

/-- What is said of the fault. -/
def KeyFault.message : KeyFault → String
  | .base58 f => s!"Invalid base58: {f.message}"
  | .hex f => s!"Invalid hex: {f.message}"
  | .length n => s!"Expected 32 bytes, got {n}"

/-- The key that a base58 text denotes. -/
def Bytes32.ofBase58 (s : String) : Except KeyFault Bytes32 :=
  match Base58.read s with
  | .error f => .error (.base58 f)
  | .ok bs =>
    match Bytes32.ofList? bs with
    | some b => .ok b
    | none => .error (.length bs.length)

/-- The text without one `0x` in front of it. -/
def withoutHexMark (s : String) : String :=
  match s.toList with
  | '0' :: 'x' :: r => String.ofList r
  | _ => s

/-- The key that a hexadecimal text denotes, with or without `0x` in front. -/
def Bytes32.ofHex (s : String) : Except KeyFault Bytes32 :=
  match Hex.read (withoutHexMark s) with
  | .error f => .error (.hex f)
  | .ok bs =>
    match Bytes32.ofList? bs with
    | some b => .ok b
    | none => .error (.length bs.length)

/-- An account. -/
structure Account where
  key : Bytes32
  deriving DecidableEq, Inhabited

namespace Account

/-- The account in base58. -/
def text (a : Account) : String := Base58.text a.key.bytes

/-- The account that a text denotes. -/
def read (s : String) : Except KeyFault Account := (Bytes32.ofBase58 s).map Account.mk

/-- What is said of a text that denotes no account, where one was asked for by name. -/
def askedMessage (f : KeyFault) : String := s!"invalid account: {f.message}"

/-- The account's outline. -/
def outline (a : Account) : Outline := .atom s!"AccountAddress({a.text})"

/-- The account's binary form. -/
def codec : Binary.Codec Account := Binary.Codec.block.rename Account.mk Account.key

/-- The account as a JSON value. -/
def toJson (a : Account) : Json := Json.ofText a.text

/-- Decodes an account. -/
def ofJson : Json.Decoder Account := Json.asParsed fun s => (read s).toOption

end Account

end ChainElection
