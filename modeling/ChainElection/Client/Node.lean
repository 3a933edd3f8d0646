import ChainElection.Chain.Contract
import ChainElection.Client.Error

/-!
What a client asks of a node and of a wallet, and what they answer.
-/

namespace ChainElection

/-- A simulated call of a contract's entry point, which changes nothing. -/
structure InvokeRequest where
  contract : ContractAddress
  receiveName : String
  parameter : List UInt8
  invoker : Option Account
  amount : UInt64
  deriving DecidableEq

/-- How a simulated call went. -/
inductive InvokeResult where
  | success (energy : Energy) (returnValue : Option (List UInt8))
  | failure (energy : Energy) (reason : String)
  deriving DecidableEq

/-- A contract update that a wallet is asked to sign and to send. -/
structure UpdatePayload where
  contract : ContractAddress
  receiveName : String
  parameter : List UInt8
  amount : UInt64
  maxEnergy : Energy
  deriving DecidableEq

/-- A contract instance with the name of its module, which qualifies entry points. -/
structure ElectionContract where
  address : ContractAddress
  name : String
  deriving DecidableEq, Inhabited

namespace ElectionContract

/-- The full name of an entry point. -/
def receiveName (c : ElectionContract) (entrypoint : String) : String :=
  c.name ++ "." ++ entrypoint

end ElectionContract

end ChainElection
