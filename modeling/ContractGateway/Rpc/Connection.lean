import ContractGateway.Crypto.Secp256k1
import ContractGateway.Rpc.Ledger
import ContractGateway.Rpc.Url

/-!
# Connecting to a node

A node is named by its URL. Connecting looks at the text of the URL only; nothing is sent. A
private key makes its account the sender.
-/

namespace ContractGateway.Rpc

/-- Connects to a node; nothing is sent yet. -/
def connect
    (url : String)
    (key : Option Nat)
    (config : Config) : Except UrlError NodeConfig :=
  (Url.check url).map fun _ =>
    { aggregator := config.reads.aggregator, sender := key.map Secp256k1.address }

end ContractGateway.Rpc
