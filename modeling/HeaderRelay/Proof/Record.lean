import HeaderRelay.Chain.Block

set_option autoImplicit false

namespace HeaderRelay

/-- How far the proof of a block has come. -/
inductive ProofStatus
  | inProcessing
  | done
  | error
  deriving DecidableEq, Repr

def ProofStatus.word : ProofStatus → String
  | .inProcessing => "IN-PROCESSING"
  | .done => "DONE"
  | .error => "ERROR"

def ProofStatus.ofWord? (word : String) : Option ProofStatus :=
  if word = "IN-PROCESSING" then some .inProcessing
  else if word = "DONE" then some .done
  else if word = "ERROR" then some .error
  else none

structure ProofRecord where
  hash : String
  height : Nat
  epochId : String
  timestamp : Nat
  status : ProofStatus
  /-- Milliseconds of the clock when the record was made. -/
  created : Nat
  deriving DecidableEq, Repr

def ProofRecord.ofBlock (block : Block) (status : ProofStatus) (created : Nat) : ProofRecord :=
  ⟨block.hash, block.height, block.epochId, block.timestamp, status, created⟩

end HeaderRelay
