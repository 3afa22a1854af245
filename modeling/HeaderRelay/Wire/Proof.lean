import HeaderRelay.Json.View
import HeaderRelay.Proof.Record
import HeaderRelay.Proof.Result
import HeaderRelay.Proof.Task

set_option autoImplicit false

namespace HeaderRelay

namespace BlockTask

def fields : List String :=
  ["currentBlockHash", "previousEpochStartHash", "previousEpochEndHash"]

def toJson (t : BlockTask) : Json :=
  .record [("currentBlockHash", .text t.block),
    ("previousEpochStartHash", .text t.previousEpochStart),
    ("previousEpochEndHash", .text t.previousEpochEnd)]

def ofJson? (v : Json) : Option BlockTask := do
  let form ← v.recordOf? fields
  let block ← (form.field 0 "currentBlockHash").required Json.text?
  let start ← (form.field 1 "previousEpochStartHash").required Json.text?
  let last ← (form.field 2 "previousEpochEndHash").required Json.text?
  return ⟨block, start, last⟩

end BlockTask

namespace EpochTask

def fields : List String :=
  ["currentEpochHash", "prevEpochStartHash", "prevEpochEndHash", "prevEpochMinus1EndHash",
    "prevEpochMinus2EndHash"]

def toJson (t : EpochTask) : Json :=
  .record [("currentEpochHash", .text t.currentEpoch), ("prevEpochStartHash", .text t.epochStart),
    ("prevEpochEndHash", .text t.epochEnd), ("prevEpochMinus1EndHash", .text t.epochEnd1),
    ("prevEpochMinus2EndHash", .text t.epochEnd2)]

def ofJson? (v : Json) : Option EpochTask := do
  let form ← v.recordOf? fields
  let currentEpoch ← (form.field 0 "currentEpochHash").required Json.text?
  let epochStart ← (form.field 1 "prevEpochStartHash").required Json.text?
  let epochEnd ← (form.field 2 "prevEpochEndHash").required Json.text?
  let epochEnd1 ← (form.field 3 "prevEpochMinus1EndHash").required Json.text?
  let epochEnd2 ← (form.field 4 "prevEpochMinus2EndHash").required Json.text?
  return ⟨currentEpoch, epochStart, epochEnd, epochEnd1, epochEnd2⟩

end EpochTask

namespace ProvingTask

def toJson : ProvingTask → Json
  | .epoch task => task.toJson
  | .block task => task.toJson

/-- An epoch task where it fits, else a block task. -/
def ofJson? (v : Json) : Option ProvingTask :=
  match v.whole? with
  | none => none
  | some v =>
      match EpochTask.ofJson? v with
      | some task => some (.epoch task)
      | none => (BlockTask.ofJson? v).map .block

end ProvingTask

namespace ResultStatus

def toJson (s : ResultStatus) : Json := .text s.word

def ofJson? (v : Json) : Option ResultStatus := v.text?.map ofWord

end ResultStatus

namespace BlockResult

def fields : List String := ["currentBlockHash", "journal", "proof", "status"]

def toJson (r : BlockResult) : Json :=
  .record [("currentBlockHash", .text r.block), ("journal", .text r.journal),
    ("proof", .text r.proof), ("status", r.status.toJson)]

def ofJson? (v : Json) : Option BlockResult := do
  let form ← v.recordOf? fields
  let block ← (form.field 0 "currentBlockHash").required Json.text?
  let journal ← (form.field 1 "journal").required Json.text?
  let proof ← (form.field 2 "proof").required Json.text?
  let status ← (form.field 3 "status").required ResultStatus.ofJson?
  return ⟨block, journal, proof, status⟩

end BlockResult

namespace EpochResult

def fields : List String :=
  ["currentBlockHash", "previousBlockHash", "currentBlockHeight", "status"]

def toJson (r : EpochResult) : Json :=
  .record [("currentBlockHash", .text r.block), ("previousBlockHash", .text r.previousBlock),
    ("currentBlockHeight", .nat r.height), ("status", r.status.toJson)]

def ofJson? (v : Json) : Option EpochResult := do
  let form ← v.recordOf? fields
  let block ← (form.field 0 "currentBlockHash").required Json.text?
  let previousBlock ← (form.field 1 "previousBlockHash").required Json.text?
  let height ← (form.field 2 "currentBlockHeight").required Json.natural?
  let status ← (form.field 3 "status").required ResultStatus.ofJson?
  return ⟨block, previousBlock, height, status⟩

end EpochResult

namespace ProvingResult

def toJson : ProvingResult → Json
  | .block result => result.toJson
  | .epoch result => result.toJson

/-- A block result where it fits, else an epoch result. -/
def ofJson? (v : Json) : Option ProvingResult :=
  match v.whole? with
  | none => none
  | some v =>
      match BlockResult.ofJson? v with
      | some result => some (.block result)
      | none => (EpochResult.ofJson? v).map .epoch

def ofPayload? (payload : Bytes) : Option ProvingResult :=
  match Json.ofBytes? payload with
  | some v => ofJson? v
  | none => none

end ProvingResult

namespace ProofStatus

def toJson (s : ProofStatus) : Json := .text s.word

def ofJson? (v : Json) : Option ProofStatus :=
  match v.choice? with
  | some word => ofWord? word
  | none => none

end ProofStatus

namespace ProofRecord

def fields : List String := ["hash", "height", "epochId", "timestamp", "status", "dateCreated"]

def toJson (r : ProofRecord) : Json :=
  .record [("hash", .text r.hash), ("height", .nat r.height), ("epochId", .text r.epochId),
    ("timestamp", .nat r.timestamp), ("status", r.status.toJson), ("dateCreated", .nat r.created)]

def ofJson? (v : Json) : Option ProofRecord := do
  let form ← v.recordOf? fields
  let hash ← (form.field 0 "hash").required Json.text?
  let height ← (form.field 1 "height").required Json.natural?
  let epochId ← (form.field 2 "epochId").required Json.text?
  let timestamp ← (form.field 3 "timestamp").required Json.natural?
  let status ← (form.field 4 "status").required ProofStatus.ofJson?
  let created ← (form.field 5 "dateCreated").required Json.natural?
  return ⟨hash, height, epochId, timestamp, status, created⟩

end ProofRecord

end HeaderRelay
