import HeaderRelay.Bus.Publisher
import HeaderRelay.Bus.Consumer
import HeaderRelay.Epoch.Loop
import HeaderRelay.Epoch.Prover
import HeaderRelay.Node.Rpc
import HeaderRelay.Proof.Store
import HeaderRelay.Simulation.Bus
import HeaderRelay.Simulation.ContractNode

/-
A whole site for a rehearsal: every question of relaying is carried to a peer in that peer's own
protocol, and what the peer sends back is understood as it would be from a real one.
-/

set_option autoImplicit false

namespace HeaderRelay.Simulation

/-- The peers of a relay and what it keeps itself. -/
structure Site where
  /-- What the chain nodes send back. -/
  nodes : Endpoint → Node.Query → Http.Reply
  contract : ContractNode
  /-- What the prover sends back; none if it never answers. -/
  prover : Option Http.Reply
  bus : BusServer
  busSettings : Bus.Settings
  link : Bus.Link
  store : Proof.Store
  /-- The time on the clock. -/
  time : Nat
  /-- What the chain nodes were asked, the latest first. -/
  queries : List (Endpoint × Node.Query)
  /-- The tasks that the prover was given, the latest first. -/
  tasks : List EpochTask
  /-- What was noted, the latest first. -/
  notes : List Note

namespace Site

def note (s : Site) (note : Note) : Site := { s with notes := note :: s.notes }

def sight (s : Site) (node : Endpoint) (query : Node.Query) : Except Fault Sighting × Site :=
  let sighting := Node.sighting node (s.nodes node query)
  (sighting, (Node.notes node sighting).foldl note { s with queries := (node, query) :: s.queries })

def ledger {α : Type} (s : Site) (action : Ledger.Session α) : Except Fault α × Site :=
  let (outcome, contract) := action.run.run ContractNode.answer s.contract
  (outcome, { s with contract })

/-- Publishes a task, and notes how that went. -/
def publish (s : Site) (task : ProvingTask) : Except Fault Unit × Site :=
  let office : Bus.Publisher.Office BusServer := ⟨s.bus, s.link, s.notes⟩
  let (outcome, office) := office.publish BusServer.answer s.busSettings task
  (outcome, { s with bus := office.server, link := office.link, notes := office.notes })

def prove (s : Site) (task : EpochTask) : Option (Except Fault EpochResult) × Site :=
  (s.prover.map Epoch.Prover.result, { s with tasks := task :: s.tasks })

def mark (s : Site) (hash : String) (status : ProofStatus) : Except Fault ProofRecord × Site :=
  match s.store.mark hash status with
  | .ok (record, store) => (.ok record, { s with store })
  | .error fault => (.error fault, s)

def given {α : Type} (p : α × Site) : Option α × Site := (some p.1, p.2)

def answer : (call : Call) → Site → Option call.Answer × Site
  | .block node id, s => given (s.sight node (.block id))
  | .head node, s =>
      let (sighting, s) := s.sight node .latest
      (some (Node.headOf node sighting), s)
  | .checkpoint, s => given (s.ledger Ledger.readCheckpoint)
  | .epochHashes height, s => given (s.ledger (Ledger.readEpochHashes height))
  | .commit previous current height, s => given (s.ledger (Ledger.commit previous current height))
  | .submit journal proof, s => given (s.ledger (Ledger.submit journal proof))
  | .isProofed hash, s => given (s.ledger (Ledger.isProofed hash))
  | .prove task, s => s.prove task
  | .publish task, s => given (s.publish task)
  | .fetch hash, s => (some (.ok (s.store.get? hash)), s)
  | .save record, s => (some (.ok ()), { s with store := s.store.put record })
  | .mark hash status, s => given (s.mark hash status)
  | .wait _, s => (some (), s)
  | .clock, s => (some s.time, s)
  | .note note, s => (some (), s.note note)

/-- Carries out an action; its outcome is missing if it never ended. -/
def perform {α : Type} (s : Site) (action : Action α) : Option (Except Fault α) × Site :=
  action.run.drive answer s

def consume (s : Site) : Option (Except Fault Unit) × Site :=
  let program := Bus.Consumer.serve s.busSettings s.link (s.bus.messages.length + 1)
  match program.drive (Program.answerBoth BusServer.answerAlways answer) (s.bus, s) with
  | (some (outcome, link), bus, s) => (outcome, { s with link, bus })
  | (none, bus, s) => (none, { s with bus })

end Site

end HeaderRelay.Simulation
