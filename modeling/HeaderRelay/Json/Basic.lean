import HeaderRelay.Number.Literal

set_option autoImplicit false

namespace HeaderRelay

/-- A JSON value. The text of a string or a name is missing where it is unreadable. -/
inductive Json
  | null
  | bool (b : Bool)
  | number (literal : Literal)
  | string (text : Option String)
  | array (items : List Json)
  | object (members : List (Option String × Json))
  deriving Repr

namespace Json

def text (s : String) : Json := .string (some s)

def nat (n : Nat) : Json := .number (Literal.ofNat n)

def record (members : List (String × Json)) : Json :=
  .object (members.map fun (name, value) => (some name, value))

/-- A value, or null in its absence. -/
def orNull {α : Type} (encode : α → Json) : Option α → Json
  | none => .null
  | some a => encode a

end Json

end HeaderRelay
