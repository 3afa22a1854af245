import HeaderRelay.Document.Form
import HeaderRelay.Json.Numeral
import HeaderRelay.Json.Reader

set_option autoImplicit false

namespace HeaderRelay.Json

/-- Levels of arrays and objects in a value that is kept whole. -/
def deepest : Nat := 127

def text? : Json → Option String
  | .string s => s
  | _ => none

/-- The value as a natural number of 64 bits. -/
def natural? : Json → Option Nat
  | .number l => l.natural?
  | _ => none

/-- The value as a word: a string, or an object that gives the word the value null. -/
def choice? : Json → Option String
  | .string s => s
  | .object [(some name, .null)] => some name
  | _ => none

/-- The value read by `read`, or its absence. -/
def optional? {α : Type} (read : Json → Option α) : Json → Option (Option α)
  | .null => some none
  | v => (read v).map some

/-- The members of an object whose names can all be read. -/
def named? : List (Option String × Json) → Option (List (String × Json))
  | [] => some []
  | (none, _) :: _ => none
  | (some name, v) :: rest => (named? rest).map ((name, v) :: ·)

def form? : Json → Option (Form Json)
  | .array items => some (.listed items)
  | .object members => (named? members).map .named
  | _ => none

/-- The value as a record of the given fields. -/
def recordOf? (v : Json) (names : List String) : Option (Form Json) :=
  v.form?.filter (·.admits names)

mutual

/-- Whether a value can be read throughout, within the given levels of nesting. -/
def isReadable (room : Nat) : Json → Bool
  | .null => true
  | .bool _ => true
  | .number l => l.numeral?.isSome
  | .string s => s.isSome
  | .array items =>
      match room with
      | 0 => false
      | room + 1 => areReadable room items
  | .object members =>
      match room with
      | 0 => false
      | room + 1 => membersReadable room members

def areReadable (room : Nat) : List Json → Bool
  | [] => true
  | v :: rest => isReadable room v && areReadable room rest

def membersReadable (room : Nat) : List (Option String × Json) → Bool
  | [] => true
  | (name, v) :: rest => name.isSome && isReadable room v && membersReadable room rest

end

/-- The value, if it can be kept whole. -/
def whole? (v : Json) : Option Json := if v.isReadable deepest then some v else none

def get? (v : Json) (name : String) : Option Json :=
  match v with
  | .object members => (members.find? fun m => m.1 == some name).map (·.2)
  | _ => none

end HeaderRelay.Json
