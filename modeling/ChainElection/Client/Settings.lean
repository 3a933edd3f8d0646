import ChainElection.Chain.Contract

/-!
Settings of a client, as the environment gives them.

A variable that is missing or that cannot be read leaves the default in place.
A budget of no polls at all means that there is no budget.
-/

namespace ChainElection

/-- The variables of an environment. -/
abbrev Environment : Type := List (String × String)

namespace Environment

/-- The value of a variable, or the default if it is missing or cannot be read. -/
def readOr {α : Type} (env : Environment) (name : String) (read : String → Option α)
    (default : α) : α :=
  ((env.lookup name).bind read).getD default

/-- Reads a natural number up to a limit. -/
def natural (limit : Nat) (s : String) : Option Nat := (Numeral.readNat limit s.toList).toOption

/-- Reads a whole number of 64 bits. -/
def integer (s : String) : Option Int :=
  (Numeral.readInt (Numeral.max64 / 2 + 1) (Numeral.max64 / 2) s.toList).toOption

/-- Reads a truth value. -/
def truth (s : String) : Option Bool :=
  if s = "true" then some true else if s = "false" then some false else none

end Environment

/-- The settings of a client. -/
structure Settings where
  nodeUrl : String
  backendUrl : String
  walletUrl : String
  contract : ContractAddress
  contractName : String
  network : Network
  pollInterval : Nat
  maxPolls : Option UInt32
  requestTimeout : Nat
  storePath : String
  deriving DecidableEq, Inhabited

namespace Settings

/-- The settings that hold where the environment says nothing. Times are milliseconds, but for the
request's, which are seconds. -/
def standard : Settings where
  nodeUrl := "http://localhost:20000"
  backendUrl := "http://localhost:3000"
  walletUrl := "http://localhost:7000"
  contract := ⟨0, 0⟩
  contractName := "election"
  network := .testnet
  pollInterval := 5000
  maxPolls := none
  requestTimeout := 30
  storePath := "election-client.db"

/-- The settings of an environment. -/
def ofEnvironment (env : Environment) : Settings where
  nodeUrl := env.readOr "ELECTION_NODE_URL" some standard.nodeUrl
  backendUrl := env.readOr "ELECTION_BACKEND_URL" some standard.backendUrl
  walletUrl := env.readOr "ELECTION_WALLET_URL" some standard.walletUrl
  contract := env.readOr "ELECTION_CONTRACT" (fun s => (ContractAddress.read s).toOption)
    standard.contract
  contractName := env.readOr "ELECTION_CONTRACT_NAME" some standard.contractName
  network := env.readOr "ELECTION_NETWORK" Network.read? standard.network
  pollInterval := env.readOr "ELECTION_POLL_INTERVAL_MS" (Environment.natural Numeral.max64)
    standard.pollInterval
  maxPolls :=
    let n := env.readOr "ELECTION_MAX_VERIFICATION_POLLS" (Environment.natural Numeral.max32) 0
    if n = 0 then none else some (UInt32.ofNat n)
  requestTimeout := env.readOr "ELECTION_REQUEST_TIMEOUT_SECS"
    (Environment.natural Numeral.max64) standard.requestTimeout
  storePath := env.readOr "ELECTION_STORE_PATH" some standard.storePath

/-- The number of bytes that a resource may have where the environment says nothing. -/
def standardResourceLimit : Nat := 8 * 1024 * 1024

/-- The number of bytes that a resource may have: the environment gives units of 1024 bytes, and
what exceeds a word of 64 bits counts as the largest of these. -/
def resourceLimit (env : Environment) : Nat :=
  env.readOr "ELECTION_MAX_RESOURCE_KB"
    (fun s => (Environment.natural Numeral.max64 s).map fun n => min (n * 1024) Numeral.max64)
    standardResourceLimit

end Settings

end ChainElection
