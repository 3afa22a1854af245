set_option autoImplicit false

namespace HeaderRelay

inductive ResultStatus
  | ok
  | error
  deriving DecidableEq, Repr

def ResultStatus.word : ResultStatus → String
  | .ok => "OK"
  | .error => "ERROR"

/-- Every word other than `OK` reports a failure. -/
def ResultStatus.ofWord (word : String) : ResultStatus := if word = "OK" then .ok else .error

structure BlockResult where
  block : String
  /-- The public output of the proof, in hexadecimal digits. -/
  journal : String
  /-- The proof, in hexadecimal digits. -/
  proof : String
  status : ResultStatus
  deriving DecidableEq, Repr

structure EpochResult where
  /-- The first block of the new epoch. -/
  block : String
  /-- The last block of the epoch before. -/
  previousBlock : String
  /-- The height of the first block of the new epoch. -/
  height : Nat
  status : ResultStatus
  deriving DecidableEq, Repr

/-- A result as it comes back from the provers. -/
inductive ProvingResult
  | block (result : BlockResult)
  | epoch (result : EpochResult)
  deriving DecidableEq, Repr

namespace ProvingResult

/-- The hash of the task that a result answers. -/
def hash : ProvingResult → String
  | .block result => result.block
  | .epoch result => result.block

def status : ProvingResult → ResultStatus
  | .block result => result.status
  | .epoch result => result.status

end ProvingResult

end HeaderRelay
