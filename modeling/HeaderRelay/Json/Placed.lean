import HeaderRelay.Document.View
import HeaderRelay.Json.View

set_option autoImplicit false

namespace HeaderRelay.Json

mutual

/-- A value as an untyped one, if it can be read throughout. -/
def content? : Json → Option Content
  | .null => some .null
  | .bool b => some (.bool b)
  | .number l => l.numeral?.map .number
  | .string s => s.map .text
  | .array items => (contents? items).map .list
  | .object members => (memberContents? members).map .table

def contents? : List Json → Option (List Content)
  | [] => some []
  | v :: rest =>
      match content? v, contents? rest with
      | some c, some cs => some (c :: cs)
      | _, _ => none

def memberContents? : List (Option String × Json) → Option (List (Content × Content))
  | [] => some []
  | (name, v) :: rest =>
      match name, content? v, memberContents? rest with
      | some s, some c, some cs => some ((.text s, c) :: cs)
      | _, _, _ => none

end

/-- A value within so many levels of nesting. -/
structure Placed where
  value : Json
  room : Nat

def top (v : Json) : Placed := ⟨v, deepest⟩

def placeForm (room : Nat) : Form Json → Form Placed
  | .named members => .named (members.map fun (name, v) => (name, ⟨v, room⟩))
  | .listed values => .listed (values.map fun v => ⟨v, room⟩)

instance : Document Placed where
  text? p := p.value.text?
  natural? p := p.value.natural?
  word? p := p.value.choice?
  absence? p := match p.value with
    | .null => some true
    | _ => some false
  form? p :=
    match p.room with
    | 0 => none
    | room + 1 => p.value.form?.map (placeForm room)
  variant? name p :=
    if p.value.isReadable p.room then p.value.content?.bind (Content.variant? name) else none

end HeaderRelay.Json
