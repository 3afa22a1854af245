import HeaderRelay.Epoch.Anchors
import HeaderRelay.Epoch.Advance

set_option autoImplicit false

namespace HeaderRelay.Proof

/-- Has a block proved whose record is not done yet. -/
def dispatch (rules : Epoch.Rules) (node : Endpoint) (block : Block) : Action ProofRecord := do
  let anchors ← Epoch.anchors rules.search node block
  let task ← Action.lift (BlockTask.build block anchors)
  let now ← Action.clock
  let record := ProofRecord.ofBlock block .inProcessing now
  Action.save record
  match ← (Action.publish (.block task)).outcome with
  | .ok _ => return record
  | .error fault =>
      let _ ← Action.mark record.hash .error
      Action.fail fault

/-- Asks for the proof of the block with a hash. A block that the contract holds a proof for is
recorded as done; for any other a task is published. -/
def request (rules : Epoch.Rules) (hash : String) : Action ProofRecord := do
  let hash := Blank.trim hash
  if hash = "" then
    Action.fail ⟨.invalidArgument, "Block hash must not be empty"⟩
  else
    let node ← Node.resolve rules.retention (some hash) none
    let block ← Node.require node (.hash hash)
    if ← Action.isProofed block.hash then
      let now ← Action.clock
      let record := ProofRecord.ofBlock block .done now
      Action.save record
      return record
    else
      dispatch rules node block

def status (hash : String) : Action (Option ProofRecord) := Action.fetch (Blank.trim hash)

end HeaderRelay.Proof
