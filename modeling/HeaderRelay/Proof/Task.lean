import HeaderRelay.Chain.Block
import HeaderRelay.Fault
import HeaderRelay.Text.Blank

set_option autoImplicit false

namespace HeaderRelay

structure BlockTask where
  block : String
  previousEpochStart : String
  previousEpochEnd : String
  deriving DecidableEq, Repr

/-- Prove the step from one epoch to the next. -/
structure EpochTask where
  currentEpoch : String
  epochStart : String
  epochEnd : String
  epochEnd1 : String
  epochEnd2 : String
  deriving DecidableEq, Repr

/-- A task as it travels to the provers. -/
inductive ProvingTask
  | epoch (task : EpochTask)
  | block (task : BlockTask)
  deriving DecidableEq, Repr

/-- The hash under which the result of a task is reported. -/
def ProvingTask.hash : ProvingTask → String
  | .epoch task => task.currentEpoch
  | .block task => task.block

def requireHash (field value : String) : Except Fault String :=
  if Blank.isBlankText value then .error ⟨.parse, "Missing " ++ field⟩ else .ok value

/-- The task for a block and its anchors, which must be those of the block. -/
def BlockTask.build (block : Block) (anchors : BlockAnchors) : Except Fault BlockTask := do
  let hash ← requireHash "currentBlockHash" block.hash
  if anchors.block ≠ hash then
    .error ⟨.parse, "Epoch link for " ++ anchors.block ++ " does not belong to block " ++ hash⟩
  else
    let start ← requireHash "previousEpochStartHash" anchors.previousEpochStart
    let last ← requireHash "previousEpochEndHash" anchors.previousEpochEnd
    .ok ⟨hash, start, last⟩

/-- The task for the step to the next epoch. -/
def EpochTask.build (link : EpochLink) : Except Fault EpochTask := do
  let currentEpoch ← requireHash "currentEpochHash" link.currentEpoch
  let epochStart ← requireHash "prevEpochStartHash" link.epochStart
  let epochEnd ← requireHash "prevEpochEndHash" link.epochEnd
  let epochEnd1 ← requireHash "prevEpochMinus1EndHash" link.epochEnd1
  let epochEnd2 ← requireHash "prevEpochMinus2EndHash" link.epochEnd2
  .ok ⟨currentEpoch, epochStart, epochEnd, epochEnd1, epochEnd2⟩

theorem requireHash_ok {field value hash : String} (required : requireHash field value = .ok hash) :
    hash = value := by
  unfold requireHash at required
  split at required
  · cases required
  · cases required
    rfl

theorem BlockTask.build_ok {block : Block} {anchors : BlockAnchors} {task : BlockTask}
    (built : BlockTask.build block anchors = .ok task) : task.block = block.hash := by
  obtain ⟨hash, required, built⟩ := exists_of_bind_ok built
  split at built
  · cases built
  · obtain ⟨_, -, built⟩ := exists_of_bind_ok built
    obtain ⟨_, -, built⟩ := exists_of_bind_ok built
    cases built
    exact requireHash_ok required

end HeaderRelay
