import HeaderRelay.Proof.Task
import HeaderRelay.Relay.Note
import HeaderRelay.Relay.Program

set_option autoImplicit false

namespace HeaderRelay

/-- What a node shows for a block id. -/
inductive Sighting
  | found (block : Block)
  | absent (why : Absence)
  deriving DecidableEq, Repr

inductive Call
  /-- Ask a node for a block. -/
  | block (node : Endpoint) (id : BlockId)
  /-- Ask a node for the height of its newest block. -/
  | head (node : Endpoint)
  /-- Read the height of the checkpoint. -/
  | checkpoint
  /-- Read the hashes saved for a height. -/
  | epochHashes (height : Nat)
  /-- Save hashes for a height and make it the checkpoint. -/
  | commit (previous current : String) (height : Nat)
  /-- Submit a proof to the contract. -/
  | submit (journal proof : String)
  /-- Ask the contract whether it holds a proof for a block. -/
  | isProofed (hash : String)
  /-- Have an epoch task proved. -/
  | prove (task : EpochTask)
  /-- Hand a task to the bus. -/
  | publish (task : ProvingTask)
  /-- Look up a record. -/
  | fetch (hash : String)
  /-- Insert a record or replace the one of the same hash. -/
  | save (record : ProofRecord)
  /-- Change the status of a record that exists. -/
  | mark (hash : String) (status : ProofStatus)
  /-- Wait for a number of nanoseconds. -/
  | wait (nanoseconds : Nat)
  /-- Read the clock, in milliseconds. -/
  | clock
  /-- Take note of something that happened. -/
  | note (note : Note)
  deriving DecidableEq, Repr

def Call.Answer : Call → Type
  | .block _ _ => Except Fault Sighting
  | .head _ => Except Fault Nat
  | .checkpoint => Except Fault Nat
  | .epochHashes _ => Except Fault EpochHashes
  | .commit _ _ _ => Except Fault Unit
  | .submit _ _ => Except Fault Unit
  | .isProofed _ => Except Fault Bool
  | .prove _ => Except Fault EpochResult
  | .publish _ => Except Fault Unit
  | .fetch _ => Except Fault (Option ProofRecord)
  | .save _ => Except Fault Unit
  | .mark _ _ => Except Fault ProofRecord
  | .wait _ => Unit
  | .clock => Nat
  | .note _ => Unit

def relaying : Interface := ⟨Call, Call.Answer⟩

abbrev Relay (α : Type) := Program relaying α

/-- A program of relaying that may end in a fault. -/
abbrev Action (α : Type) := ExceptT Fault (Program relaying) α

namespace Action

def fail {α : Type} (fault : Fault) : Action α := ExceptT.mk (.done (.error fault))

def block (node : Endpoint) (id : BlockId) : Action Sighting :=
  ExceptT.mk (Program.query (I := relaying) (.block node id))

def head (node : Endpoint) : Action Nat :=
  ExceptT.mk (Program.query (I := relaying) (.head node))

def checkpoint : Action Nat := ExceptT.mk (Program.query (I := relaying) .checkpoint)

def epochHashes (height : Nat) : Action EpochHashes :=
  ExceptT.mk (Program.query (I := relaying) (.epochHashes height))

def commit (previous current : String) (height : Nat) : Action Unit :=
  ExceptT.mk (Program.query (I := relaying) (.commit previous current height))

def submit (journal proof : String) : Action Unit :=
  ExceptT.mk (Program.query (I := relaying) (.submit journal proof))

def isProofed (hash : String) : Action Bool :=
  ExceptT.mk (Program.query (I := relaying) (.isProofed hash))

def prove (task : EpochTask) : Action EpochResult :=
  ExceptT.mk (Program.query (I := relaying) (.prove task))

def publish (task : ProvingTask) : Action Unit :=
  ExceptT.mk (Program.query (I := relaying) (.publish task))

def fetch (hash : String) : Action (Option ProofRecord) :=
  ExceptT.mk (Program.query (I := relaying) (.fetch hash))

def save (record : ProofRecord) : Action Unit :=
  ExceptT.mk (Program.query (I := relaying) (.save record))

def mark (hash : String) (status : ProofStatus) : Action ProofRecord :=
  ExceptT.mk (Program.query (I := relaying) (.mark hash status))

def clock : Action Nat := ExceptT.lift (Program.query (I := relaying) .clock)

def note (n : Note) : Action Unit := ExceptT.lift (Program.query (I := relaying) (.note n))

/-- The outcome of an action as a value, so that a fault can be looked at. -/
def outcome {α : Type} (action : Action α) : Action (Except Fault α) :=
  ExceptT.mk (do return .ok (← action.run))

/-- A value that was computed, or the fault in its place. -/
def lift {α : Type} (value : Except Fault α) : Action α := ExceptT.mk (.done value)

end Action

end HeaderRelay
