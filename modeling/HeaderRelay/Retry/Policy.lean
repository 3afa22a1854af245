import HeaderRelay.Fault
import HeaderRelay.Retry.Schedule

set_option autoImplicit false

namespace HeaderRelay.Retry

/-- Which faults are worth another attempt. -/
inductive Scope
  | all
  | transientOnly
  deriving DecidableEq, Repr

def Scope.word : Scope → String
  | .all => "all"
  | .transientOnly => "transient-only"

def Scope.ofWord? (word : String) : Option Scope :=
  if word = "all" then some .all
  else if word = "transient-only" then some .transientOnly
  else none

/-- What is tried again, after which delays, and how often in all. -/
structure Policy where
  scope : Scope
  schedule : Schedule
  /-- The number of attempts, unless it is unlimited. -/
  maxAttempts : Option Nat
  deriving DecidableEq, Repr

namespace Policy

/-- Everything is tried again, every five seconds, for ever. -/
def standard : Policy := ⟨.all, .standard, none⟩

/-- Whether to give up after a fault that was the `failures`-th in a row. -/
def givesUp (policy : Policy) (fault : Fault) (failures : Nat) : Bool :=
  (policy.scope == .transientOnly && !fault.isTransient) ||
    (match policy.maxAttempts with
    | some attempts => decide (attempts ≤ failures)
    | none => false)

/-- The delay before the next attempt, unless it is given up; giving up draws no delay. -/
def nextDelay (policy : Policy) (backoff : Backoff) (fault : Fault) (failures : Nat) :
    Option Nat × Backoff :=
  if policy.givesUp fault failures then (none, backoff)
  else
    let (delay, backoff) := backoff.next
    (some delay, backoff)

end Policy

end HeaderRelay.Retry
