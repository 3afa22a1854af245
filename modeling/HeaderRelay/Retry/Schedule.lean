import HeaderRelay.Number.Binary64

/-
Delays between attempts: always the same one, or growing by a factor up to a limit. The growth
of an interval is a parameter, so that one and the same schedule runs on rounded and on exact
numbers.
-/

set_option autoImplicit false

namespace HeaderRelay.Retry

def perMilli : Nat := 1000000

def perSecond : Nat := 1000000000

/-- How delays follow each other; times in milliseconds. -/
inductive Schedule
  | fixed (delay : Nat)
  | exponential (initial : Nat) (multiplier : Binary64) (max : Nat)
  deriving DecidableEq, Repr

def Schedule.standard : Schedule := .fixed 5000

/-- The arithmetic of growing intervals, in nanoseconds. -/
structure Growth where
  /-- Whether an interval, multiplied once more, would reach a limit. -/
  reaches : Nat → Nat → Bool
  /-- The interval multiplied once. -/
  grown : Nat → Nat
  /-- The delay that an interval stands for. -/
  delay : Nat → Nat

namespace Growth

/-- An interval as a number of nanoseconds: whole seconds and the rest are converted apart. -/
def number (nanoseconds : Nat) : Binary64 :=
  ((Binary64.ofNat (nanoseconds / perSecond)).mul (Binary64.ofNat perSecond)).add
    (Binary64.ofNat (nanoseconds % perSecond))

/-- The interval of a number of nanoseconds. Seconds are divided off before the rest is cut. -/
def interval (x : Binary64) : Nat :=
  (x.div (Binary64.ofNat perSecond)).toWord * perSecond + x.toWord % perSecond

/-- Growth by a factor, each operation rounded. -/
def rounded (multiplier : Binary64) : Growth where
  reaches current limit := (number current).ge ((number limit).div multiplier)
  grown current := interval ((number current).mul multiplier)
  delay current := interval (number current)

end Growth

inductive Backoff
  | fixed (delay : Nat)
  | growing (growth : Growth) (initial limit current : Nat)

namespace Backoff

/-- Delays that grow from `initial` up to `limit`, both in milliseconds. -/
def grow (growth : Growth) (initial limit : Nat) : Backoff :=
  .growing growth (initial * perMilli) (limit * perMilli) (initial * perMilli)

/-- A schedule at its start, the growth of intervals left open. -/
def opening (read : Binary64 → Growth) : Schedule → Backoff
  | .fixed delay => .fixed (delay * perMilli)
  | .exponential initial multiplier max => grow (read multiplier) initial max

def ofSchedule (schedule : Schedule) : Backoff := opening .rounded schedule

/-- The next delay, in nanoseconds, and where the schedule stands after it. -/
def next : Backoff → Nat × Backoff
  | .fixed delay => (delay, .fixed delay)
  | .growing growth initial limit current =>
      (growth.delay current,
        .growing growth initial limit
          (if growth.reaches current limit then limit else growth.grown current))

def reset : Backoff → Backoff
  | .fixed delay => .fixed delay
  | .growing growth initial limit _ => .growing growth initial limit initial

end Backoff

end HeaderRelay.Retry
