import HeaderRelay.Bus.Consumer
import HeaderRelay.Epoch.Loop
import HeaderRelay.Simulation.Bus
import HeaderRelay.Simulation.World

set_option autoImplicit false

namespace HeaderRelay.Simulation

/-- How a run ended, and how long it took in milliseconds. -/
structure RunEnd where
  fault : Option Fault
  elapsed : Nat

namespace World

/-- Runs the epoch loop for at most `reads` reads of the checkpoint. The loop is told to stop
where a question is never answered. -/
def runLoop (w : World) (rules : Epoch.Rules) (policy : Retry.Policy) (reads : Nat)
    (deadline : Option Nat) : RunEnd × World :=
  let w := { w with time := some 0, reads := some reads, deadline }
  let (outcome, w) := Program.run (I := relaying.cancellable) answer
    (Epoch.attend rules policy (reads + 1)) w
  let fault := match outcome with
    | some (.error fault) => some fault
    | _ => none
  let elapsed := w.time.getD 0 / 1000000
  (⟨fault, elapsed⟩, { w with time := none, reads := none, deadline := none })

def consume (w : World) (settings : Bus.Settings) (bus : BusServer) :
    Option (Except Fault Unit) × World × BusServer :=
  let program := Bus.Consumer.serve settings .fresh (bus.messages.length + 1)
  match program.drive (Program.answerBoth BusServer.answerAlways answer) (bus, w) with
  | (some (outcome, _), bus, w) => (outcome, w, bus)
  | (none, bus, w) => (none, w, bus)

def progress (w : World) : Progress := Progress.ofNotes w.notes.reverse

end World

end HeaderRelay.Simulation
