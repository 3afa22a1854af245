import HeaderRelay.Relay.Action

set_option autoImplicit false

namespace HeaderRelay.Node

def require (node : Endpoint) (id : BlockId) : Action Block := do
  match ← Action.block node id with
  | .found block => return block
  | .absent .unknown =>
      Action.fail ⟨.unknownBlock, node.word ++ " node does not know block " ++ id.describe⟩
  | .absent .notSynced =>
      Action.fail ⟨.notSynced, node.word ++ " node is not synced up to block " ++ id.describe⟩

/-- The block at a height, or nothing where no block was produced. -/
def produced? (node : Endpoint) (height : Nat) : Action (Option Block) := do
  match ← Action.block node (.height height) with
  | .found block => return some block
  | .absent .unknown => return none
  | .absent .notSynced =>
      Action.fail
        ⟨.notSynced, node.word ++ " node is not synced up to height " ++ toString height⟩

end HeaderRelay.Node
