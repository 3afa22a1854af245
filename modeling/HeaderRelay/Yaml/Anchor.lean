import HeaderRelay.Yaml.Node

/-
Anchors under numbers. An anchor gets for its number how many names are known before it, so one
that takes over a name may come to share its number with a later one; an alias stands for the
last node with the number.
-/

set_option autoImplicit false

namespace HeaderRelay.Yaml

abbrev Names := List (String × Nat)

namespace Names

def declare (names : Names) : Option String → Option Nat × Names
  | none => (none, names)
  | some name =>
      (some names.length, (name, names.length) :: names.filter fun known => known.1 != name)

/-- Gives what is said of a node a number for its anchor. -/
def properties (names : Names) (p : Properties String) : Properties Nat × Names :=
  let (anchor, names) := names.declare p.anchor
  (⟨anchor, p.tag⟩, names)

end Names

namespace Node

mutual

/-- A node with numbers for its anchors, unless it refers to one that is not known. -/
def number? (names : Names) : Node String → Option (Node Nat × Names)
  | .scalar p style text =>
      let (p, names) := names.properties p
      some (.scalar p style text, names)
  | .sequence p items => do
      let (p, names) := names.properties p
      let (items, names) ← numberItems? names items
      return (.sequence p items, names)
  | .mapping p members => do
      let (p, names) := names.properties p
      let (members, names) ← numberMembers? names members
      return (.mapping p members, names)
  | .alias name => (names.lookup name).map fun id => (.alias id, names)

def numberItems? (names : Names) : List (Node String) → Option (List (Node Nat) × Names)
  | [] => some ([], names)
  | item :: rest => do
      let (item, names) ← number? names item
      let (rest, names) ← numberItems? names rest
      return (item :: rest, names)

def numberMembers? (names : Names) :
    List (Node String × Node String) → Option (List (Node Nat × Node Nat) × Names)
  | [] => some ([], names)
  | (key, value) :: rest => do
      let (key, names) ← number? names key
      let (value, names) ← number? names value
      let (rest, names) ← numberMembers? names rest
      return ((key, value) :: rest, names)

end

mutual

/-- The last node with a number, in the order in which nodes begin. -/
def find? (id : Nat) : Node Nat → Option (Node Nat)
  | .scalar p style text => if p.anchor = some id then some (.scalar p style text) else none
  | .sequence p items =>
      (findItem? id items).or (if p.anchor = some id then some (.sequence p items) else none)
  | .mapping p members =>
      (findMember? id members).or (if p.anchor = some id then some (.mapping p members) else none)
  | .alias _ => none

def findItem? (id : Nat) : List (Node Nat) → Option (Node Nat)
  | [] => none
  | item :: rest => (findItem? id rest).or (find? id item)

def findMember? (id : Nat) : List (Node Nat × Node Nat) → Option (Node Nat)
  | [] => none
  | (key, value) :: rest => ((findMember? id rest).or (find? id value)).or (find? id key)

end

mutual

/-- How many scalars, aliases, beginnings and ends a node has. -/
def size {α : Type} : Node α → Nat
  | .sequence _ items => 2 + sizeItems items
  | .mapping _ members => 2 + sizeMembers members
  | _ => 1

def sizeItems {α : Type} : List (Node α) → Nat
  | [] => 0
  | item :: rest => size item + sizeItems rest

def sizeMembers {α : Type} : List (Node α × Node α) → Nat
  | [] => 0
  | (key, value) :: rest => size key + size value + sizeMembers rest

end

end Node

end HeaderRelay.Yaml
