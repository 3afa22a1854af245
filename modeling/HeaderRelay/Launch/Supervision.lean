import HeaderRelay.Launch.Plan

set_option autoImplicit false

namespace HeaderRelay.Launch

inductive Component
  | epochLoop
  | resultConsumer
  | server
  deriving DecidableEq, Repr

inductive Phase
  | running
  /-- It has a fault, and is about to give the signal. -/
  | failing
  | ended
  deriving DecidableEq, Repr

structure Run where
  phase : Component → Phase
  /-- Whether the signal to stop was given. -/
  signalled : Bool
  /-- Whether the caller gave it. -/
  called : Bool
  /-- Whether some component has had a fault. -/
  faulty : Bool

inductive Event
  /-- The caller gives the signal. -/
  | call
  /-- A component meets a fault that it cannot overcome. -/
  | fail (component : Component)
  /-- A component with a fault gives the signal and ends. -/
  | give (component : Component)
  /-- A component sees the signal and ends. -/
  | heed (component : Component)
  deriving DecidableEq, Repr

namespace Run

def start : Run := ⟨fun _ => .running, false, false, false⟩

def move (r : Run) (component : Component) (phase : Phase) : Run :=
  { r with phase := fun other => if other = component then phase else r.phase other }

/-- The relay after an event, if that can happen. -/
def after? (r : Run) : Event → Option Run
  | .call => some { r with signalled := true, called := true }
  | .fail component =>
      if r.phase component = .running then some { r.move component .failing with faulty := true }
      else none
  | .give component =>
      if r.phase component = .failing then some { r.move component .ended with signalled := true }
      else none
  | .heed component =>
      if r.phase component = .running ∧ r.signalled = true then some (r.move component .ended)
      else none

inductive Reachable : Run → Prop
  | start : Reachable start
  | step {r next : Run} (event : Event) (before : Reachable r)
      (happens : r.after? event = some next) : Reachable next

end Run

end HeaderRelay.Launch
