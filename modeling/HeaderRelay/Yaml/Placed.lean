import HeaderRelay.Document.Shape
import HeaderRelay.Document.View
import HeaderRelay.Yaml.Anchor
import HeaderRelay.Yaml.Layout
import HeaderRelay.Yaml.Value

set_option autoImplicit false

namespace HeaderRelay.Yaml

/-- A node of a document, within so many levels of nesting. -/
structure Placed where
  /-- The document. -/
  root : Node Nat
  /-- The node, if the text has any. -/
  node : Option (Node Nat)
  room : Nat

namespace Placed

def deepest : Nat := 128

/-- How many aliases may be followed for each part of a document. -/
def patience : Nat := 100

/-- The node in place of which another may stand. -/
def target (p : Placed) : Option (Node Nat) :=
  match p.node with
  | some (.alias id) => p.root.find? id
  | node => node

def text? (p : Placed) : Option String :=
  match p.target with
  | some (.scalar _ _ text) => some text
  | _ => none

/-- A reading that may follow so many more aliases. -/
abbrev Patient (β : Type) := StateT Nat Option β

def follow (root : Node Nat) : Node Nat → Patient (Node Nat)
  | .alias id => fun left =>
      match left, root.find? id with
      | left + 1, some node => some (node, left)
      | _, _ => none
  | node => pure node

def contentWithin (root : Node Nat) : Nat → Node Nat → Patient Content
  | 0, _ => failure
  | levels + 1, node => do
      match ← follow root node with
      | .scalar p style text => liftM (Scalar.content? p.tag style text)
      | .sequence p items =>
          if levels = 0 || (Scalar.localName? p.tag).isSome then failure
          else return .list (← items.mapM (contentWithin root levels))
      | .mapping p members =>
          if levels = 0 || (Scalar.localName? p.tag).isSome then failure
          else
            return .table (← members.mapM fun (key, value) => do
              return (← contentWithin root levels key, ← contentWithin root levels value))
      | .alias _ => failure

/-- A node as the name of a kind, whatever its tag says. -/
def kindWithin (root : Node Nat) (node : Node Nat) : Patient Content := do
  match ← follow root node with
  | .scalar _ _ text => return .text text
  | _ => failure

/-- A node as one of several kinds, as an untyped value. -/
def variantWithin (root : Node Nat) (room : Nat) (name : String) (node : Node Nat) :
    Patient Content := do
  match ← follow root node with
  | .sequence p (kind :: items) =>
      if room = 0 || (Scalar.localName? p.tag).isSome then failure
      else return .list ((← kindWithin root kind) :: (← items.mapM (contentWithin root room)))
  | .mapping p members =>
      if room = 0 || (Scalar.localName? p.tag).isSome then failure
      else
        return .table (← members.mapM fun (key, value) => do
          let key ← contentWithin root room key
          if key.isText name then return (key, ← kindWithin root value)
          else return (key, ← contentWithin root room value))
  | _ => failure

/-- How many aliases may be followed in a document. -/
def allowance (root : Node Nat) : Nat := patience * root.size

def variant? (p : Placed) (name : String) : Option (String × Content) :=
  match p.node with
  | none => none
  | some node =>
      match (variantWithin p.root p.room name node).run (allowance p.root) with
      | some (content, _) => content.variant? name
      | none => none

def named? (p : Placed) (room : Nat) :
    List (Node Nat × Node Nat) → Option (List (String × Placed))
  | [] => some []
  | (key, value) :: rest =>
      match text? ⟨p.root, some key, room⟩, named? p room rest with
      | some name, some members => some ((name, ⟨p.root, some value, room⟩) :: members)
      | _, _ => none

def form? (p : Placed) : Option (Form Placed) :=
  match p.target, p.room with
  | none, _ => some (.named [])
  | some (.scalar _ .plain ""), _ => some (.named [])
  | some (.mapping _ members), room + 1 => (named? p room members).map .named
  | _, _ => none

/-- One for an alias. -/
def hop : Node Nat → Nat
  | .alias _ => 1
  | _ => 0

/-- How many aliases are followed where a node is read. -/
def hops : Nat → Shape → Placed → Nat
  | 0, _, _ => 0
  | levels + 1, shape, p =>
      match p.node, shape with
      | none, _ => 0
      | some node, .leaf => hop node
      | some node, .variant name =>
          match (variantWithin p.root p.room name node).run (allowance p.root) with
          | some (_, left) => allowance p.root - left
          | none => 0
      | some node, .record shapes =>
          match p.target with
          | some (.mapping _ members) =>
              hop node + (members.map fun (key, value) =>
                hop key + (match (text? ⟨p.root, some key, 0⟩).bind (shapes.lookup ·) with
                  | some shape => hops levels shape ⟨p.root, some value, p.room - 1⟩
                  | none => 0)).sum
          | _ => hop node

def ofString? (text : String) : Option Placed := do
  let tokens ← tokens? text.toList
  match ← Node.ofTokens? tokens with
  | none => return ⟨.empty .none, none, deepest⟩
  | some node =>
      let (root, _) ← node.number? []
      return ⟨root, some root, deepest⟩

/-- Reads a text with one document. Altogether no more aliases may be followed than are allowed. -/
def readText? {β : Type} (shape : Shape) (read : Placed → Option β) (text : String) : Option β :=
  (ofString? text).bind fun p =>
    if hops deepest shape p ≤ allowance p.root then read p else none

end Placed

instance : Document Placed where
  text? p := p.text?
  natural? p :=
    match p.target with
    | some (.scalar properties style text) => Scalar.word64? properties.tag style text
    | _ => none
  word? p :=
    match p.target with
    | some (.scalar properties style text) => Scalar.word? properties.tag style text
    | _ => none
  absence? p :=
    match p.target with
    | none => some true
    | some (.scalar properties style text) => Scalar.absence? properties.tag style text
    | _ => some false
  form? p := p.form?
  variant? name p := p.variant? name

end HeaderRelay.Yaml
