import HeaderRelay.Node.Lookup

/-
The boundary between two epochs, found by looking at pairs of neighbouring heights. Only the
linkage of headers is used: a block's epoch id is the last block two epochs back, its next epoch
id the last block of the epoch before.
-/

set_option autoImplicit false

namespace HeaderRelay.Epoch

structure Search where
  /-- Blocks expected in an epoch. -/
  epochLength : Nat
  /-- How many pairs of heights are looked at. -/
  maxDrift : Nat
  deriving DecidableEq, Repr

/-- The last block of an epoch and the first of the next, with the drift of their heights. -/
structure Boundary where
  last : Block
  first : Block
  drift : Nat
  deriving DecidableEq, Repr

/-- Whether two blocks end the epoch of `start` and begin the next one. -/
def isBoundary (start last first : Block) : Bool :=
  start.epochId == last.epochId && last.hash == first.nextEpochId && last.hash == first.prevHash

/-- Looks at the pairs from `drift` on, at most `count` of them. Heights are natural numbers and do
not wrap; numbers of 64 bits agree with them as long as `expected + drift + count` is below
`2 ^ 64`. -/
def findFrom (node : Endpoint) (start : Block) (expected : Nat) :
    Nat → Nat → Action (Option Boundary)
  | 0, _ => return none
  | count + 1, drift => do
      Action.note .probed
      let last ← Node.produced? node (expected + drift)
      let first ← Node.produced? node (expected + drift + 1)
      match last, first with
      | some last, some first =>
          if isBoundary start last first then return some ⟨last, first, drift⟩
          else findFrom node start expected count (drift + 1)
      | _, _ => findFrom node start expected count (drift + 1)

/-- The boundary after the epoch of `start`, whose last block is expected at a height. -/
def findBoundary (node : Endpoint) (start : Block) (expected maxDrift : Nat) :
    Action Boundary := do
  match ← findFrom node start expected maxDrift 0 with
  | some boundary => return boundary
  | none =>
      Action.fail ⟨.blockNotProduced,
        "No epoch boundary within " ++ toString maxDrift ++ " blocks of height " ++
          toString expected⟩

/-- The step from the epoch of the checkpoint at a height to the next epoch. The height at which the
epoch should end is a natural number, which numbers of 64 bits agree with unless
`height + search.epochLength` is zero or not below `2 ^ 64`. -/
def scan (search : Search) (node : Endpoint) (height : Nat) : Action EpochLink := do
  let saved ← Action.epochHashes height
  let start ← Node.require node (.hash saved.current)
  let expected := height + search.epochLength - 1
  let boundary ← findBoundary node start expected search.maxDrift
  let previous ← Node.require node (.hash saved.previous)
  Action.note (.drifted boundary.drift)
  return {
    currentEpoch := boundary.first.hash
    epochStart := saved.current
    epochEnd := boundary.last.hash
    epochEnd1 := saved.previous
    epochEnd2 := previous.nextEpochId
    boundaryHeight := boundary.first.height }

end HeaderRelay.Epoch
