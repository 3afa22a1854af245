import HeaderRelay.Bus.Server
import HeaderRelay.Bus.Settings
import HeaderRelay.Fault

set_option autoImplicit false

namespace HeaderRelay.Bus

/-- How far the set-up has come. -/
structure Link where
  /-- Whether there is a connection. -/
  connected : Bool
  /-- Whether the stream of tasks is in place. -/
  ready : Bool
  deriving DecidableEq, Repr

def Link.fresh : Link := ⟨false, false⟩

/-- A program that talks to the bus, keeps what it has set up even when it fails, and may end in
a fault. -/
abbrev Session (α : Type) := ExceptT Fault (StateT Link (Program busServer)) α

namespace Session

def ask (call : ServerCall) : Session call.Answer :=
  ExceptT.lift (StateT.lift (Program.query (I := busServer) call))

def fail {α : Type} (detail : String) : Session α := throw ⟨.bus, detail⟩

/-- Makes a connection; a first failure is followed by one more attempt after a delay. -/
def dial (s : Settings) : Session Unit := do
  let connected : Bool ← ask (.connect s.url)
  if connected then return ()
  else
    let _ : Unit ← ask (.pause s.reconnectDelay)
    let connected : Bool ← ask (.connect s.url)
    if connected then return ()
    else fail ("Failed to connect to " ++ s.url ++ ": *")

/-- Makes a connection unless there is one. -/
def connect (s : Settings) : Session Unit := do
  if (← get).connected then return ()
  else
    dial s
    modify fun link => { link with connected := true }

/-- Whether a stream is there or could be created. -/
def hasStream (stream : Stream) : Session Bool := do
  if !isStreamName stream.name then return false
  else
    match (← ask (.findStream stream.name) : Finding) with
    | .found => return true
    | .missing => ask (.createStream stream)
    | .failed => return false

def ensureStream (stream : Stream) : Session Unit := do
  if ← hasStream stream then return ()
  else fail ("Failed to create stream " ++ stream.name ++ ": *")

end Session

end HeaderRelay.Bus
