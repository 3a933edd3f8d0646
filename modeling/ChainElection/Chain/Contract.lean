import ChainElection.Binary.Codec
import ChainElection.Json.Decoder
import ChainElection.Text.Blank
import ChainElection.Text.Numeral
import ChainElection.Text.Outline

/-!
Addresses of contracts, the energy that running one takes, and networks.

An address is an index and a subindex, written `<index,subindex>`. It is read
with or without the angle brackets and with blanks around each part.
-/

namespace ChainElection

/-! ### Addresses -/

/-- The address of a contract instance. -/
structure ContractAddress where
  index : UInt64
  subindex : UInt64
  deriving DecidableEq, Inhabited

namespace ContractAddress

/-- Why a text is not an address. -/
inductive Fault where
  | noComma (text : String)
  | index (f : Numeral.Fault)
  | subindex (f : Numeral.Fault)
  deriving DecidableEq, Repr

/-- What is said of the fault. -/
def Fault.message : Fault → String
  | .noComma s => s!"invalid contract address: {s}"
  | .index f => s!"invalid contract index: {f.message}"
  | .subindex f => s!"invalid contract subindex: {f.message}"

/-- The address between angle brackets. -/
def text (a : ContractAddress) : String :=
  String.ofList ('<' :: Numeral.write a.index.toNat ++ ',' :: Numeral.write a.subindex.toNat ++
    ['>'])

/-- What stands between a pair of angle brackets around the text, if there is one. -/
def unbracketed? (s : List Char) : Option (List Char) :=
  match Text.trim s with
  | '<' :: r => if r.getLast? = some '>' then some r.dropLast else none
  | _ => none

/-- One of the two parts. -/
def readPart (s : List Char) : Except Numeral.Fault UInt64 :=
  (Numeral.readNat Numeral.max64 (Text.trim s)).map UInt64.ofNat

/-- The address that a text denotes. -/
def read (s : String) : Except Fault ContractAddress :=
  match Text.splitOnce ',' ((unbracketed? s.toList).getD s.toList) with
  | none => .error (.noComma s)
  | some (a, b) =>
    match readPart a with
    | .error f => .error (.index f)
    | .ok index =>
      match readPart b with
      | .error f => .error (.subindex f)
      | .ok subindex => .ok ⟨index, subindex⟩

/-- The address's outline. -/
def outline (a : ContractAddress) : Outline :=
  .record "ContractAddress"
    [("index", .ofNat a.index.toNat), ("subindex", .ofNat a.subindex.toNat)]

/-- The address's binary form. -/
def codec : Binary.Codec ContractAddress :=
  (Binary.Codec.word64.pair Binary.Codec.word64).rename (fun p => ⟨p.1, p.2⟩)
    fun a => (a.index, a.subindex)

/-- The address as a JSON value. -/
def toJson (a : ContractAddress) : Json := Json.ofText a.text

/-- Decodes an address. -/
def ofJson : Json.Decoder ContractAddress := Json.asParsed fun s => (read s).toOption

end ContractAddress

/-! ### Energy -/

/-- The cost of running a contract's entry point. -/
structure Energy where
  units : UInt64
  deriving DecidableEq, Inhabited

namespace Energy

/-- The energy together with more of it, as far as it can be counted. -/
def add (e : Energy) (more : UInt64) : Energy :=
  ⟨UInt64.ofNat (min (e.units.toNat + more.toNat) Numeral.max64)⟩

/-- The energy with its unit. -/
def text (e : Energy) : String := s!"{e.units.toNat} NRG"

/-- The energy's outline. -/
def outline (e : Energy) : Outline := .group "Energy" [.ofNat e.units.toNat]

/-- The energy as a JSON value. -/
def toJson (e : Energy) : Json := Json.ofNat e.units.toNat

/-- Decodes an energy. -/
def ofJson : Json.Decoder Energy := fun j =>
  (Json.asNatural Numeral.max64 j).map fun n => ⟨UInt64.ofNat n⟩

end Energy

/-! ### Networks -/

/-- The networks of the chain. -/
inductive Network where
  | mainnet
  | testnet
  deriving DecidableEq, Inhabited

namespace Network

/-- The network's name. -/
def text : Network → String
  | .mainnet => "mainnet"
  | .testnet => "testnet"

/-- The network of a name. -/
def read? (s : String) : Option Network :=
  if s = "mainnet" then some .mainnet
  else if s = "testnet" then some .testnet
  else none

/-- What is said of a name that no network has. -/
def unknownMessage (s : String) : String :=
  s!"Invalid network '{s}'. Must be one of: mainnet, testnet"

/-- The network's outline. -/
def outline : Network → Outline
  | .mainnet => .atom "Mainnet"
  | .testnet => .atom "Testnet"

end Network

end ChainElection
