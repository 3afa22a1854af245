import HeaderRelay.Ledger.Contract

set_option autoImplicit false

namespace HeaderRelay.Simulation

open Ledger (NodeCall Receipt)

/-- What a node says; none stands for a request that fails. -/
structure ContractNode where
  chainId : Option Nat
  /-- What calls return that begin with a selector. -/
  calls : List (Bytes × Option Bytes)
  /-- What all other calls return. -/
  call : Option Bytes
  nonce : Option Nat
  gas : Option Nat
  /-- The hash of a transaction that is sent. -/
  sent : Option Bytes
  /-- Whether a transaction is known. -/
  known : Option Bool
  receipt : Option (Option Receipt)
  /-- What it was asked, the latest first. -/
  asked : List NodeCall

namespace ContractNode

def returned (n : ContractNode) (data : Bytes) : Option Bytes :=
  match n.calls.lookup (data.take 4) with
  | some value => value
  | none => n.call

/-- Answers a request without keeping it. -/
def reply (n : ContractNode) : (call : NodeCall) → call.Answer
  | .chainId => n.chainId
  | .call data => n.returned data
  | .nonce => n.nonce
  | .gas _ => n.gas
  | .send _ => n.sent
  | .find _ => n.known
  | .receipt _ => n.receipt

def answer (call : NodeCall) (n : ContractNode) : call.Answer × ContractNode :=
  (n.reply call, { n with asked := call :: n.asked })

/-- The data of the first call, be it for reading or for writing. -/
def firstData? (n : ContractNode) : Option Bytes :=
  n.asked.reverse.findSome? fun
    | .call data => some data
    | .gas data => some data
    | _ => none

def hasSent (n : ContractNode) : Bool :=
  n.asked.any fun
    | .send _ => true
    | _ => false

end ContractNode

end HeaderRelay.Simulation
