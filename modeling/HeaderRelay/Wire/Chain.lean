import HeaderRelay.Chain.Block
import HeaderRelay.Json.View

set_option autoImplicit false

namespace HeaderRelay

namespace BlockId

/-- A height is written as a number and a hash as a string. -/
def toJson : BlockId → Json
  | .height n => .nat n
  | .hash s => .text s

/-- Reads a block id from a value that is kept whole. -/
def ofJson? (v : Json) : Option BlockId :=
  match v.whole? with
  | none => none
  | some v =>
      match v.natural? with
      | some n => some (.height n)
      | none => v.text?.map .hash

end BlockId

namespace Block

def fields : List String :=
  ["hash", "height", "epoch_id", "prev_hash", "next_epoch_id", "timestamp"]

def toJson (b : Block) : Json :=
  .record [("hash", .text b.hash), ("height", .nat b.height), ("epoch_id", .text b.epochId),
    ("prev_hash", .text b.prevHash), ("next_epoch_id", .text b.nextEpochId),
    ("timestamp", .nat b.timestamp)]

def ofJson? (v : Json) : Option Block := do
  let form ← v.recordOf? fields
  let hash ← (form.field 0 "hash").required Json.text?
  let height ← (form.field 1 "height").required Json.natural?
  let epochId ← (form.field 2 "epoch_id").required Json.text?
  let prevHash ← (form.field 3 "prev_hash").required Json.text?
  let nextEpochId ← (form.field 4 "next_epoch_id").required Json.text?
  let timestamp ← (form.field 5 "timestamp").required Json.natural?
  return ⟨hash, height, epochId, prevHash, nextEpochId, timestamp⟩

end Block

namespace EpochHashes

def fields : List String := ["previous_hash", "current_hash"]

def toJson (h : EpochHashes) : Json :=
  .record [("previous_hash", .text h.previous), ("current_hash", .text h.current)]

def ofJson? (v : Json) : Option EpochHashes := do
  let form ← v.recordOf? fields
  let previous ← (form.field 0 "previous_hash").required Json.text?
  let current ← (form.field 1 "current_hash").required Json.text?
  return ⟨previous, current⟩

end EpochHashes

namespace Checkpoint

def fields : List String := ["height", "previous_hash", "current_hash"]

def toJson (c : Checkpoint) : Json :=
  .record [("height", .nat c.height), ("previous_hash", .text c.previous),
    ("current_hash", .text c.current)]

def ofJson? (v : Json) : Option Checkpoint := do
  let form ← v.recordOf? fields
  let height ← (form.field 0 "height").required Json.natural?
  let previous ← (form.field 1 "previous_hash").required Json.text?
  let current ← (form.field 2 "current_hash").required Json.text?
  return ⟨height, previous, current⟩

end Checkpoint

namespace EpochLink

def fields : List String :=
  ["current_epoch_hash", "prev_epoch_start_hash", "prev_epoch_end_hash",
    "prev_epoch_minus1_end_hash", "prev_epoch_minus2_end_hash", "boundary_height"]

def toJson (l : EpochLink) : Json :=
  .record [("current_epoch_hash", .text l.currentEpoch),
    ("prev_epoch_start_hash", .text l.epochStart), ("prev_epoch_end_hash", .text l.epochEnd),
    ("prev_epoch_minus1_end_hash", .text l.epochEnd1),
    ("prev_epoch_minus2_end_hash", .text l.epochEnd2),
    ("boundary_height", .nat l.boundaryHeight)]

def ofJson? (v : Json) : Option EpochLink := do
  let form ← v.recordOf? fields
  let currentEpoch ← (form.field 0 "current_epoch_hash").required Json.text?
  let epochStart ← (form.field 1 "prev_epoch_start_hash").required Json.text?
  let epochEnd ← (form.field 2 "prev_epoch_end_hash").required Json.text?
  let epochEnd1 ← (form.field 3 "prev_epoch_minus1_end_hash").required Json.text?
  let epochEnd2 ← (form.field 4 "prev_epoch_minus2_end_hash").required Json.text?
  let boundaryHeight ← (form.field 5 "boundary_height").required Json.natural?
  return ⟨currentEpoch, epochStart, epochEnd, epochEnd1, epochEnd2, boundaryHeight⟩

end EpochLink

namespace BlockAnchors

def fields : List String :=
  ["current_block_hash", "previous_epoch_start_hash", "previous_epoch_end_hash"]

def toJson (a : BlockAnchors) : Json :=
  .record [("current_block_hash", .text a.block),
    ("previous_epoch_start_hash", .text a.previousEpochStart),
    ("previous_epoch_end_hash", .text a.previousEpochEnd)]

def ofJson? (v : Json) : Option BlockAnchors := do
  let form ← v.recordOf? fields
  let block ← (form.field 0 "current_block_hash").required Json.text?
  let start ← (form.field 1 "previous_epoch_start_hash").required Json.text?
  let last ← (form.field 2 "previous_epoch_end_hash").required Json.text?
  return ⟨block, start, last⟩

end BlockAnchors

end HeaderRelay
