import HeaderRelay.Fault
import HeaderRelay.Proof.Record
import HeaderRelay.Proof.Result

set_option autoImplicit false

namespace HeaderRelay

/-- The two nodes of the followed chain: one with recent blocks, one with all. -/
inductive Endpoint
  | primary
  | archival
  deriving DecidableEq, Repr

def Endpoint.word : Endpoint → String
  | .primary => "primary"
  | .archival => "archival"

/-- Why a node has no block to show. -/
inductive Absence
  | unknown
  | notSynced
  deriving DecidableEq, Repr

def Absence.word : Absence → String
  | .unknown => "UNKNOWN_BLOCK"
  | .notSynced => "NOT_SYNCED_YET"

/-- The two kinds of requests that are counted. -/
inductive RequestKind
  | generateProof
  | proofStatus
  deriving DecidableEq, Repr

def RequestKind.word : RequestKind → String
  | .generateProof => "generate_proof"
  | .proofStatus => "proof_status"

inductive Note
  /-- A node was asked for a block. -/
  | nodeAsked (node : Endpoint)
  /-- A node said why it has no block to show. -/
  | nodeLacks (node : Endpoint) (absence : Absence)
  /-- A node was chosen for an operation. -/
  | selected (node : Endpoint)
  /-- A pair of heights was looked at for an epoch boundary. -/
  | probed
  /-- A boundary was found, so many heights later than expected. -/
  | drifted (drift : Nat)
  /-- The epoch loop began or ended an iteration. -/
  | working (busy : Bool)
  /-- The checkpoint was read. -/
  | checkpointRead (height : Nat)
  /-- A new checkpoint was committed and read back. -/
  | committed (height : Nat)
  /-- An iteration failed. -/
  | iterationFailed (kind : Fault.Kind)
  /-- A task was accepted by the bus. -/
  | taskPublished
  /-- A task was not accepted by the bus. -/
  | taskRefused
  /-- A result came in. -/
  | resultReceived (status : ResultStatus)
  /-- A proof was submitted, and accepted or not. -/
  | submitted (accepted : Bool)
  /-- A record moved to a status. -/
  | moved (status : ProofStatus)
  /-- The handling of a request began. -/
  | requestBegan (kind : RequestKind)
  /-- The handling of a request ended, well or not. -/
  | requestEnded (kind : RequestKind) (well : Bool)
  deriving DecidableEq, Repr

/-- How far the epoch loop has come. -/
structure Progress where
  /-- Whether an iteration is under way. -/
  busy : Bool
  /-- The checkpoint that was read last. -/
  last : Option Nat
  deriving DecidableEq, Repr

namespace Progress

def start : Progress := ⟨false, none⟩

/-- The progress after one more note. -/
def after (p : Progress) : Note → Progress
  | .working busy => { p with busy := busy }
  | .checkpointRead height => { p with last := some height }
  | _ => p

def ofNotes (notes : List Note) : Progress := notes.foldl after start

end Progress

end HeaderRelay
