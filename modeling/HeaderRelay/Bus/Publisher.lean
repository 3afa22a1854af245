import HeaderRelay.Bus.Acknowledgement
import HeaderRelay.Bus.Session
import HeaderRelay.Json.Printer
import HeaderRelay.Relay.Note
import HeaderRelay.Wire.Proof

set_option autoImplicit false

namespace HeaderRelay.Bus.Publisher

/-- The stream of tasks, which keeps a task until somebody has taken it. -/
def taskStream (s : Settings) : Stream := ⟨s.taskStream, [s.taskSubject], .workQueue⟩

/-- Connects and has the stream of tasks in place, unless that was done before. -/
def setUp (s : Settings) : Session Unit := do
  if (← get).ready then return ()
  else
    Session.connect s
    Session.ensureStream (taskStream s)
    modify fun link => { link with ready := true }

/-- Takes a task for published if it was acknowledged. -/
def confirm : Receipt → Session Unit
  | .unsent => Session.fail "Publish failed: *"
  | .silent => Session.fail "Publish not acknowledged: *"
  | .reply body =>
      if (Acknowledgement.ofBody? body).isSome then return ()
      else Session.fail "Publish not acknowledged: *"

def publish (s : Settings) (task : ProvingTask) : Session Unit := do
  setUp s
  let receipt : Receipt ← Session.ask (.publish s.taskSubject task.toJson.toText)
  confirm receipt

/-- What is noted of the outcome of publishing a task. -/
def note {α : Type} : Except Fault α → Note
  | .ok _ => .taskPublished
  | .error _ => .taskRefused

structure Office (σ : Type) where
  server : σ
  link : Link
  /-- What was noted, the latest first. -/
  notes : List Note

/-- Publishes a task, and notes how that went. -/
def Office.publish {σ : Type} (answer : (call : busServer.Call) → σ → busServer.Reply call × σ)
    (s : Settings) (office : Office σ) (task : ProvingTask) : Except Fault Unit × Office σ :=
  let ((outcome, link), server) :=
    ((Publisher.publish s task).run.run office.link).run answer office.server
  (outcome, ⟨server, link, note outcome :: office.notes⟩)

end HeaderRelay.Bus.Publisher
