import HeaderRelay.Relay.Action

/-
Which of the two nodes serves an operation. The primary node keeps a window of recent epochs;
what lies before the window, or is unknown to it, is left to the archival node.
-/

set_option autoImplicit false

namespace HeaderRelay.Node

/-- How much history the primary node is taken to keep. -/
structure Retention where
  /-- Blocks in an epoch. -/
  epochLength : Nat
  /-- Epochs that are kept. -/
  epochs : Nat
  deriving DecidableEq, Repr

/-- The least height that the primary node keeps when the newest height is `head`. The product is
one of natural numbers; numbers of 64 bits agree with it as long as it is below `2 ^ 64`. -/
def Retention.keptFrom (r : Retention) (head : Nat) : Nat := head - r.epochs * r.epochLength

/-- Faults of the chain nodes pass unchanged; those of other parts are unexpected here. -/
def recognize (fault : Fault) : Fault :=
  match fault.kind with
  | .ledger => ⟨.unexpected, fault.message⟩
  | .bus => ⟨.unexpected, fault.message⟩
  | .prover => ⟨.unexpected, fault.message⟩
  | .storage => ⟨.unexpected, fault.message⟩
  | _ => fault

/-- The block that exactly one of a hash and a height names. -/
def target (hash : Option String) (height : Option Nat) : Except Fault BlockId :=
  match hash, height with
  | some hash, none => .ok (.hash hash)
  | none, some height => .ok (.height height)
  | some _, some _ => .error ⟨.invalidArgument, "Only one of hash or height may be supplied"⟩
  | none, none => .error ⟨.invalidArgument, "Either hash or height must be supplied"⟩

def choose (retention : Retention) (id : BlockId) : Action Endpoint := do
  match ← Action.block .primary id with
  | .found block =>
      let head ← Action.head .archival
      return if block.height < retention.keptFrom head then .archival else .primary
  | .absent .unknown =>
      match ← Action.block .archival id with
      | .found _ => return .archival
      | .absent .unknown =>
          Action.fail ⟨.unknownBlock,
            "Block " ++ id.describe ++ " is unknown to both primary and archival nodes"⟩
      | .absent .notSynced =>
          Action.fail ⟨.notSynced, "Archival node is not synced up to block " ++ id.describe⟩
  | .absent .notSynced =>
      Action.fail ⟨.notSynced, "Primary node is not synced up to block " ++ id.describe⟩

/-- The node for an operation on the block that exactly one of a hash and a height names. -/
def resolve (retention : Retention) (hash : Option String) (height : Option Nat) :
    Action Endpoint := do
  let id ← Action.lift (target hash height)
  match ← (choose retention id).outcome with
  | .ok node =>
      Action.note (.selected node)
      return node
  | .error fault => Action.fail (recognize fault)

end HeaderRelay.Node
