import HeaderRelay.Json.Printer
import HeaderRelay.Proof.Settlement
import HeaderRelay.Proof.Store
import HeaderRelay.Simulation.Chain

set_option autoImplicit false

namespace HeaderRelay.Simulation

structure Contract where
  checkpoint : Nat
  /-- The hashes saved for heights, the latest first. -/
  hashes : List (Nat × EpochHashes)
  /-- The blocks it holds a proof for. -/
  proofed : List String

structure World where
  primary : Chain
  archival : Chain
  contract : Contract
  /-- Replies of the provers, in order; without one they prove what they are asked. -/
  replies : List EpochResult
  /-- Whether the provers never answer. -/
  stalled : Bool
  /-- Calls that are to fail, or to pass, by the word they are logged under. -/
  scripted : List (String × Option Fault)
  /-- Results that arrive while a task is being published. -/
  arrivals : List Bytes
  store : Proof.Store
  /-- What was asked, the latest first. -/
  log : List String
  /-- What was noted, the latest first. -/
  notes : List Note
  /-- Whether node selection and boundary search are noted. -/
  detailed : Bool
  /-- Nanoseconds since the start of the run, if there is one. -/
  time : Option Nat
  /-- Reads of the checkpoint that are still answered, if they are limited. -/
  reads : Option Nat
  /-- When waiting is broken off, in nanoseconds. -/
  deadline : Option Nat

namespace World

/-- The time on the clock, later than any time that a record can be given. -/
def clockTime : Nat := Nat.pow 2 64

/-- Surroundings around two chains and a contract, before anything happened. -/
def around (primary archival : Chain) (contract : Contract) (detailed : Bool) : World :=
  { primary, archival, contract, replies := [], stalled := false, scripted := [], arrivals := [],
    store := .empty, log := [], notes := [], detailed, time := none, reads := none,
    deadline := none }

def archivalText : String :=
  "RpcEndpoint \x7b kind: Archival, url: \"http://archival.near.test\" \x7d"

def chain (w : World) : Endpoint → Chain
  | .primary => w.primary
  | .archival => w.archival

/-- Enters a line in the log, with the time during a run. -/
def enter (w : World) (line : String) : World :=
  let line := String.ofList (Blank.trimRight line.toList)
  let line := match w.time with
    | some t => "@" ++ toString (t / 1000000) ++ " " ++ line
    | none => line
  { w with log := line :: w.log }

def firstWord (line : String) : String := String.ofList (line.toList.takeWhile (· != ' '))

/-- Takes the first entry of a target out of a script. -/
def takeScripted (target : String) :
    List (String × Option Fault) → Option Fault × List (String × Option Fault)
  | [] => (none, [])
  | (word, fault) :: rest =>
      if word = target then (fault, rest)
      else
        let (found, rest) := takeScripted target rest
        (found, (word, fault) :: rest)

/-- Enters a question in the log and says whether it is to fail. -/
def attempt (w : World) (line : String) : Option Fault × World :=
  let w := w.enter line
  let (fault, scripted) := takeScripted (firstWord line) w.scripted
  (fault, { w with scripted })

/-- Answers a question that may be made to fail. -/
def reply {α : Type} (w : World) (line : String) (act : World → Except Fault α × World) :
    Option (Except Fault α) × World :=
  match w.attempt line with
  | (some fault, w) => (some (.error fault), w)
  | (none, w) =>
      let (value, w) := act w
      (some value, w)

/-- What provers answer that prove what they are asked. -/
def honest (task : EpochTask) : EpochResult :=
  let height := match task.currentEpoch.toList with
    | 'H' :: ds => ((Decimal.value? ds).filter (· ≤ Chain.latestTime)).getD 0
    | _ => 0
  ⟨task.currentEpoch, task.epochEnd, height, .ok⟩

def nextReply (w : World) (task : EpochTask) : EpochResult × World :=
  match w.replies with
  | [] => (honest task, w)
  | reply :: replies => (reply, { w with replies })

/-- Whether a note belongs to the detail that may be left out. -/
def isDetail : Note → Bool
  | .selected _ => true
  | .probed => true
  | .drifted _ => true
  | _ => false

/-- Reads the checkpoint, unless the reads have run out. -/
def readCheckpoint (w : World) : Option (Except Fault Nat) × World :=
  match w.reads with
  | some 0 => (none, w)
  | reads =>
      let w := { w with reads := reads.map (· - 1) }
      w.reply "read_checkpoint" fun w => (.ok w.contract.checkpoint, w)

/-- Waits, unless the deadline comes first. -/
def wait (w : World) (nanoseconds : Nat) : Option Unit × World :=
  let wake := w.time.getD 0 + nanoseconds
  match w.deadline with
  | some deadline =>
      if deadline ≤ wake then (none, { w with time := some deadline })
      else (some (), { w with time := some wake })
  | none => (some (), { w with time := some wake })

/-- Answers every question, a task handed to the bus being simply accepted. -/
def answerQuietly : (call : Call) → World → Option call.Answer × World
  | .block node id, w =>
      w.reply (node.word ++ " " ++ id.describe) fun w => ((w.chain node).answer id, w)
  | .head node, w => w.reply (node.word ++ " latest") fun w => ((w.chain node).newest, w)
  | .checkpoint, w => w.readCheckpoint
  | .epochHashes height, w =>
      w.reply ("read_epoch_hashes " ++ toString height) fun w =>
        match w.contract.hashes.lookup height with
        | some hashes => (.ok hashes, w)
        | none => (.error ⟨.ledger, "No epoch hashes at " ++ toString height⟩, w)
  | .commit previous current height, w =>
      w.reply ("commit " ++ previous ++ " " ++ current ++ " " ++ toString height) fun w =>
        let contract :=
          { w.contract with
            checkpoint := height
            hashes := (height, ⟨previous, current⟩) :: w.contract.hashes }
        (.ok (), { w with contract })
  | .submit journal proof, w =>
      w.reply ("verify " ++ journal ++ " " ++ proof) fun w => (.ok (), w)
  | .isProofed hash, w =>
      w.reply ("is_proofed " ++ hash) fun w => (.ok (w.contract.proofed.contains hash), w)
  | .prove task, w =>
      match w.attempt ("prove " ++ task.toJson.toText) with
      | (some fault, w) => (some (.error fault), w)
      | (none, w) =>
          if w.stalled then (none, { w with time := w.deadline.or w.time })
          else
            let (reply, w) := w.nextReply task
            (some (.ok reply), w)
  | .publish task, w => w.reply ("publish " ++ task.toJson.toText) fun w => (.ok (), w)
  | .fetch hash, w => w.reply ("store_get " ++ hash) fun w => (.ok (w.store.get? hash), w)
  | .save record, w =>
      w.reply ("store_upsert " ++ record.hash ++ " " ++ record.status.word) fun w =>
        (.ok (), { w with store := w.store.put record })
  | .mark hash status, w =>
      w.reply ("store_update " ++ hash ++ " " ++ status.word) fun w =>
        match w.store.mark hash status with
        | .ok (record, store) => (.ok record, { w with store })
        | .error fault => (.error fault, w)
  | .wait nanoseconds, w => w.wait nanoseconds
  | .clock, w => (some clockTime, w)
  | .note note, w =>
      (some (), if isDetail note && !w.detailed then w else { w with notes := note :: w.notes })

def settlementWord : Proof.Settlement → String
  | .done => "Done"
  | .error => "Error"
  | .skipped => "Skipped"

/-- Accepts a task, and settles the result that arrives meanwhile, if there is one. -/
def accept (w : World) : Option (Except Fault Unit) × World :=
  match w.arrivals with
  | [] => (some (.ok ()), w)
  | payload :: arrivals =>
      match (Proof.settlePayload payload).run.drive answerQuietly { w with arrivals } with
      | (some (.ok settlement), w) =>
          (some (.ok ()), w.enter ("instant " ++ settlementWord settlement))
      | (some (.error fault), w) => (some (.error fault), w)
      | (none, w) => (none, w)

def answer : (call : Call) → World → Option call.Answer × World
  | .publish task, w =>
      match w.attempt ("publish " ++ task.toJson.toText) with
      | (some fault, w) => (some (.error fault), w)
      | (none, w) => w.accept
  | call, w => answerQuietly call w

/-- Carries out an action; its outcome is missing if it never ended. -/
def perform {α : Type} (w : World) (action : Action α) : Option (Except Fault α) × World :=
  action.run.drive answer w

end World

end HeaderRelay.Simulation
