import HeaderRelay.Epoch.Boundary
import HeaderRelay.Node.Selection

set_option autoImplicit false

namespace HeaderRelay.Epoch

structure Rules where
  retention : Node.Retention
  search : Search
  deriving DecidableEq, Repr

structure Report where
  /-- The checkpoint it started from. -/
  previous : Nat
  /-- The checkpoint it ended at. -/
  committed : Nat
  task : EpochTask
  deriving DecidableEq, Repr

/-- Accepts the reply of a prover if it reports success and a greater height. -/
def accept (height : Nat) (result : EpochResult) : Except Fault EpochResult :=
  if result.status ≠ .ok then
    .error ⟨.prover, "Epoch proof for checkpoint " ++ toString height ++
      " failed with status " ++ result.status.word⟩
  else if result.height ≤ height then
    .error ⟨.prover, "Epoch prover reported height " ++ toString result.height ++
      " which does not advance checkpoint " ++ toString height⟩
  else .ok result

def advance (rules : Rules) : Action Report := do
  let height ← Action.checkpoint
  Action.note (.checkpointRead height)
  let node ← Node.resolve rules.retention none (some height)
  let link ← scan rules.search node height
  let task ← Action.lift (EpochTask.build link)
  let reply ← Action.prove task
  let result ← Action.lift (accept height reply)
  Action.commit result.previousBlock result.block result.height
  let committed ← Action.checkpoint
  Action.note (.checkpointRead committed)
  Action.note (.committed committed)
  return ⟨height, committed, task⟩

/-- Advances the checkpoint, busy from the beginning to the end. -/
def iterate (rules : Rules) : Action Report := do
  Action.note (.working true)
  let outcome ← (advance rules).outcome
  Action.note (.working false)
  Action.lift outcome

end HeaderRelay.Epoch
