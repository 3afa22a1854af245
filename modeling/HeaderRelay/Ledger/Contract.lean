import HeaderRelay.Chain.Block
import HeaderRelay.Ledger.Abi
import HeaderRelay.Ledger.Hash
import HeaderRelay.Relay.Program

/-
The checkpoint contract, reached through a node that holds it. Reading is one call. Writing asks
for the nonce and the gas, sends a signed transaction, and counts as done only if the transaction
is found and its receipt reports success.
-/

set_option autoImplicit false

namespace HeaderRelay.Ledger

structure Receipt where
  hash : Bytes
  status : Option Nat
  block : Option Nat
  deriving DecidableEq, Repr

/-- A request to the node that holds the contract. -/
inductive NodeCall
  | chainId
  /-- Call the contract without a transaction. -/
  | call (data : Bytes)
  /-- Ask for the nonce of the next transaction. -/
  | nonce
  /-- Ask for the gas that a transaction needs. -/
  | gas (data : Bytes)
  /-- Send a signed transaction. -/
  | send (data : Bytes)
  /-- Ask whether a transaction is known. -/
  | find (hash : Bytes)
  /-- Ask for the receipt of a transaction. -/
  | receipt (hash : Bytes)
  deriving DecidableEq, Repr

/-- The answers to a request; none stands for a request that failed. -/
def NodeCall.Answer : NodeCall → Type
  | .chainId => Option Nat
  | .call _ => Option Bytes
  | .nonce => Option Nat
  | .gas _ => Option Nat
  | .send _ => Option Bytes
  | .find _ => Option Bool
  | .receipt _ => Option (Option Receipt)

/-- The interface of the node that holds the contract. -/
def contractNode : Interface := ⟨NodeCall, NodeCall.Answer⟩

/-- A program that talks to that node and may end in a fault. -/
abbrev Session (α : Type) := ExceptT Fault (Program contractNode) α

def ask (call : NodeCall) : Session call.Answer :=
  ExceptT.lift (Program.query (I := contractNode) call)

inductive Method
  | latestCheckpoint
  | epochHashes
  | saveEpochHashes
  | verifyProof
  | isProofed
  deriving DecidableEq, Repr

def Method.name : Method → String
  | .latestCheckpoint => "getLatestCheckpoint"
  | .epochHashes => "getEpochHashesByHeight"
  | .saveEpochHashes => "saveEpochHashesAndSetCheckpoint"
  | .verifyProof => "verifyAndSaveProof"
  | .isProofed => "isProofedHash"

def Method.selector : Method → Bytes
  | .latestCheckpoint => [0x84, 0xa4, 0xf1, 0x48]
  | .epochHashes => [0x08, 0xc2, 0x2c, 0xfb]
  | .saveEpochHashes => [0x1d, 0x31, 0xfb, 0x78]
  | .verifyProof => [0xa9, 0x90, 0xcf, 0x57]
  | .isProofed => [0xaa, 0xfb, 0x47, 0x3a]

/-- A fault of the contract or of the way to it. -/
def fault (detail : String) : Fault := ⟨.ledger, detail⟩

/-- Calls a method that only reads, and decodes what it returns. -/
def read {α : Type} (method : Method) (arguments : Bytes) (decode : Bytes → Option α) :
    Session α := do
  match (← ask (.call (method.selector ++ arguments)) : Option Bytes) with
  | none => throw (fault (method.name ++ ": *"))
  | some data =>
      match decode data with
      | some a => return a
      | none => throw (fault (method.name ++ ": *"))

def hexText (bytes : Bytes) : String := "0x" ++ Hex.encode bytes

def blockText : Option Nat → String
  | some n => "Some(" ++ toString n ++ ")"
  | none => "None"

/-- Sends a transaction; its outcome is the hash. -/
def send (method : Method) (data : Bytes) : Session Bytes := do
  let refused := fault ("Failed to send " ++ method.name ++ ": *")
  let some _ := (← ask .nonce : Option Nat) | throw refused
  let some _ := (← ask (.gas data) : Option Nat) | throw refused
  let some hash := (← ask (.send data) : Option Bytes) | throw refused
  return hash

/-- Waits for a transaction that was sent, and takes it for done only if it succeeded. -/
def confirm (method : Method) (hash : Bytes) : Session Unit := do
  let tx := method.name ++ " tx " ++ hexText hash
  let lost := fault ("Failed to get receipt of " ++ tx ++ ": *")
  let some found := (← ask (.find hash) : Option Bool) | throw lost
  if !found then throw (fault (tx ++ " dropped from mempool"))
  else
    let some receipt := (← ask (.receipt hash) : Option (Option Receipt)) | throw lost
    match receipt with
    | none => throw (fault (tx ++ " dropped from mempool"))
    | some receipt =>
        if receipt.status = some 1 then return ()
        else
          throw (fault (method.name ++ " tx " ++ hexText receipt.hash ++ " reverted in block " ++
            blockText receipt.block))

def write (method : Method) (arguments : Bytes) : Session Unit := do
  let hash ← send method (method.selector ++ arguments)
  confirm method hash

/-- A number that was read, if it fits in 64 bits. -/
def fitting (what : String) (n : Nat) : Except Fault Nat :=
  if n < Nat.pow 2 64 then .ok n
  else .error ⟨.parse, what ++ " " ++ toString n ++ " does not fit in u64"⟩

def readCheckpoint : Session Nat := do
  let height ← read .latestCheckpoint [] Abi.number?
  ExceptT.mk (.done (fitting "Checkpoint height" height))

def isZero (bytes : Bytes) : Bool := bytes.all (· == 0)

def readEpochHashes (height : Nat) : Session EpochHashes := do
  let (previous, current) ← read .epochHashes (Abi.word height) Abi.pair?
  if isZero previous || isZero current then
    throw (fault ("No epoch hashes saved for height " ++ toString height))
  else return ⟨hashText previous, hashText current⟩

/-- Saves hashes for a height and makes it the checkpoint. -/
def commit (previous current : String) (height : Nat) : Session Unit := do
  let previous ← ExceptT.mk (.done (hashBytes previous))
  let current ← ExceptT.mk (.done (hashBytes current))
  write .saveEpochHashes (previous ++ current ++ Abi.word height)

def submit (journal proof : String) : Session Unit := do
  let journal ← ExceptT.mk (.done (payloadBytes "journal" journal))
  let proof ← ExceptT.mk (.done (payloadBytes "proof" proof))
  write .verifyProof (Abi.twoStrings journal proof)

/-- Asks whether the contract holds a proof for a block. -/
def isProofed (hash : String) : Session Bool := do
  let bytes ← ExceptT.mk (.done (hashBytes hash))
  read .isProofed (Abi.oneString bytes) Abi.bool?

end HeaderRelay.Ledger
