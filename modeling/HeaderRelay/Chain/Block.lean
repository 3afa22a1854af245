set_option autoImplicit false

namespace HeaderRelay

/-- Names a block by height or by hash. -/
inductive BlockId
  | height (n : Nat)
  | hash (s : String)
  deriving DecidableEq, Repr

def BlockId.describe : BlockId → String
  | .height n => "height " ++ toString n
  | .hash s => "hash " ++ s

/-- The header of a block. Its `epochId` is the hash of the last block two epochs back, its
`nextEpochId` the hash of the last block of the epoch before. -/
structure Block where
  hash : String
  height : Nat
  epochId : String
  /-- The hash of the parent. -/
  prevHash : String
  nextEpochId : String
  /-- Nanoseconds. -/
  timestamp : Nat
  deriving DecidableEq, Repr

/-- The two hashes that a checkpoint stands for. -/
structure EpochHashes where
  /-- The last block of the epoch before. -/
  previous : String
  /-- The first block of the epoch. -/
  current : String
  deriving DecidableEq, Repr

/-- A checkpoint: a height with its two hashes. -/
structure Checkpoint where
  height : Nat
  previous : String
  current : String
  deriving DecidableEq, Repr

/-- The hashes that describe the step from one epoch to the next. -/
structure EpochLink where
  /-- The first block of the new epoch. -/
  currentEpoch : String
  /-- The first block of the epoch of the checkpoint. -/
  epochStart : String
  /-- The last block of the epoch of the checkpoint. -/
  epochEnd : String
  /-- The last block one epoch earlier. -/
  epochEnd1 : String
  /-- The last block two epochs earlier. -/
  epochEnd2 : String
  /-- The height of the first block of the new epoch. -/
  boundaryHeight : Nat
  deriving DecidableEq, Repr

/-- The epoch anchors of a single block. -/
structure BlockAnchors where
  block : String
  /-- The first block of the epoch before. -/
  previousEpochStart : String
  /-- The last block of the epoch two back. -/
  previousEpochEnd : String
  deriving DecidableEq, Repr

end HeaderRelay
