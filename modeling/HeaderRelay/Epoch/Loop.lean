import HeaderRelay.Epoch.Advance
import HeaderRelay.Retry.Policy

/-
The epoch loop: one iteration after another, at once after a success and after a delay when it
failed, until the retry policy gives up or the loop is told to stop.
-/

set_option autoImplicit false

namespace HeaderRelay.Epoch

structure LoopState where
  backoff : Retry.Backoff
  /-- Failures since the last success. -/
  failures : Nat

/-- What the loop does after an iteration. -/
inductive Decision
  /-- Go on at once. -/
  | proceed
  /-- Go on after a number of nanoseconds. -/
  | pause (nanoseconds : Nat)
  /-- Give up. -/
  | stop (fault : Fault)
  deriving DecidableEq, Repr

namespace LoopState

def start (policy : Retry.Policy) : LoopState := ⟨Retry.Backoff.ofSchedule policy.schedule, 0⟩

def mostFailures : Nat := Nat.pow 2 32 - 1

/-- The state and the decision after the outcome of an iteration. -/
def after {α : Type} (policy : Retry.Policy) (state : LoopState) :
    Except Fault α → LoopState × Decision
  | .ok _ => (⟨state.backoff.reset, 0⟩, .proceed)
  | .error fault =>
      let failures := min (state.failures + 1) mostFailures
      match policy.nextDelay state.backoff fault failures with
      | (some delay, backoff) => (⟨backoff, failures⟩, .pause delay)
      | (none, backoff) => (⟨backoff, failures⟩, .stop fault)

end LoopState

def noteFailure {α : Type} : Except Fault α → Relay Unit
  | .ok _ => return ()
  | .error fault => Program.query (I := relaying) (.note (.iterationFailed fault.kind))

/-- The loop, for at most the given number of iterations; its outcome is the fault that made it
give up. -/
def loopFrom (rules : Rules) (policy : Retry.Policy) : Nat → LoopState → Relay (Option Fault)
  | 0, _ => return none
  | fuel + 1, state => do
      let outcome ← (iterate rules).run
      noteFailure outcome
      match state.after policy outcome with
      | (state, .proceed) => loopFrom rules policy fuel state
      | (state, .pause delay) => do
          let _ ← Program.query (I := relaying) (.wait delay)
          loopFrom rules policy fuel state
      | (_, .stop fault) => return some fault

def loop (rules : Rules) (policy : Retry.Policy) (fuel : Nat) : Relay (Option Fault) :=
  loopFrom rules policy fuel (LoopState.start policy)

/-- A program of relaying that may be told to stop. -/
abbrev Stoppable (α : Type) := Program relaying.cancellable α

/-- The loop until it gives up or is told to stop, for at most the given number of iterations; as
long as it may go on, it has no outcome. An iteration that is dropped under way is over, and a
wait is just left. -/
def attendFrom (rules : Rules) (policy : Retry.Policy) :
    Nat → LoopState → Stoppable (Option (Except Fault Unit))
  | 0, _ => return none
  | fuel + 1, state => do
      match ← (iterate rules).run.cancellable with
      | none =>
          let _ ← Program.query (I := relaying.cancellable) (.note (.working false))
          return some (.ok ())
      | some outcome =>
          let _ ← (noteFailure outcome).cancellable
          match state.after policy outcome with
          | (state, .proceed) => attendFrom rules policy fuel state
          | (state, .pause delay) => do
              match ← Program.query (I := relaying.cancellable) (.wait delay) with
              | some _ => attendFrom rules policy fuel state
              | none => return some (.ok ())
          | (_, .stop fault) => return some (.error fault)

/-- The loop from its start until it gives up or is told to stop. -/
def attend (rules : Rules) (policy : Retry.Policy) (fuel : Nat) :
    Stoppable (Option (Except Fault Unit)) :=
  attendFrom rules policy fuel (LoopState.start policy)

end HeaderRelay.Epoch
