import HeaderRelay.Number.Decimal
import HeaderRelay.Relay.Action

set_option autoImplicit false

namespace HeaderRelay.Simulation

/-- A chain that is served by one node. -/
structure Chain where
  /-- The heights at which epochs start, the first block among them. -/
  epochStarts : List Nat
  /-- The greatest height. -/
  head : Nat
  /-- Heights without a block. -/
  skipped : List Nat
  /-- What the node reports as its newest height, if that is not the head. -/
  latest : Option (Except Fault Nat)
  /-- Answers that differ from the chain, the latest first. -/
  overrides : List (BlockId × Except Fault Sighting)

namespace Chain

/-- The id that stands for epochs before the first. -/
def genesis : String := String.ofList (List.replicate 32 '1')

def hashAt (height : Nat) : String := "H" ++ String.ofList (Decimal.digits height)

def holds (c : Chain) (height : Nat) : Bool :=
  match c.epochStarts with
  | [] => false
  | first :: _ => first ≤ height && height ≤ c.head && !c.skipped.contains height

/-- The greatest height below `height` that is not skipped, not below `first`. -/
def below (c : Chain) (first : Nat) : Nat → Nat → Option Nat
  | 0, _ => none
  | fuel + 1, height =>
      if height ≤ first then none
      else if c.skipped.contains (height - 1) then below c first fuel (height - 1)
      else some (height - 1)

/-- The hash of the last block before a height. -/
def before (c : Chain) (height : Nat) : String :=
  match c.epochStarts with
  | [] => genesis
  | first :: _ =>
      match c.below first (c.skipped.length + 1) (min height (c.head + 1)) with
      | some h => hashAt h
      | none => genesis

/-- The starts of the epochs up to a height, the latest first. -/
def startsUpTo (c : Chain) (height : Nat) : List Nat :=
  let indexed := c.epochStarts.zipIdx.filter fun (start, _) => start ≤ height
  match indexed.getLast? with
  | some (_, index) => (c.epochStarts.take (index + 1)).reverse
  | none => []

def latestTime : Nat := Nat.pow 2 64 - 1

def blockAt (c : Chain) (height : Nat) : Block :=
  let starts := c.startsUpTo height
  { hash := hashAt height
    height := height
    epochId := match starts with
      | _ :: previous :: _ => c.before previous
      | _ => genesis
    prevHash := c.before height
    nextEpochId := match starts with
      | start :: _ => c.before start
      | [] => genesis
    timestamp := min (height * 1000000000) latestTime }

def heightOf? (hash : String) : Option Nat :=
  match hash.toList with
  | 'H' :: ds =>
      match Decimal.value? ds with
      | some n => if hashAt n = hash then some n else none
      | none => none
  | _ => none

def newest (c : Chain) : Except Fault Nat := c.latest.getD (.ok c.head)

def answer (c : Chain) (id : BlockId) : Except Fault Sighting :=
  match c.overrides.find? fun o => o.1 == id with
  | some o => o.2
  | none =>
      let height? := match id with
        | .height n => some n
        | .hash s => heightOf? s
      match height? with
      | some n => .ok (if c.holds n then .found (c.blockAt n) else .absent .unknown)
      | none => .ok (.absent .unknown)

end Chain

end HeaderRelay.Simulation
