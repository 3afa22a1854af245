import HeaderRelay.Epoch.Boundary

set_option autoImplicit false

namespace HeaderRelay.Epoch

/-- The child of a block among the next heights, at most `count` of them from `offset` on. Like all
heights these do not wrap; numbers of 64 bits agree with them below `2 ^ 64`. -/
def successorFrom (node : Endpoint) (parent : Block) : Nat → Nat → Action (Option Block)
  | 0, _ => return none
  | count + 1, offset => do
      match ← Node.produced? node (parent.height + offset) with
      | some candidate =>
          if candidate.prevHash = parent.hash then return some candidate
          else successorFrom node parent count (offset + 1)
      | none => successorFrom node parent count (offset + 1)

def anchors (search : Search) (node : Endpoint) (block : Block) : Action BlockAnchors := do
  let last ← Node.require node (.hash block.epochId)
  match ← successorFrom node last search.maxDrift 1 with
  | some first => return ⟨block.hash, first.hash, last.hash⟩
  | none =>
      Action.fail ⟨.blockNotProduced,
        "No successor of epoch block " ++ last.hash ++ " within " ++ toString search.maxDrift ++
          " blocks"⟩

end HeaderRelay.Epoch
