import HeaderRelay.Document.Form
import HeaderRelay.Json.Numeral

set_option autoImplicit false

namespace HeaderRelay

/-- An untyped value. The names of a table may be any values. -/
inductive Content
  | null
  | bool (b : Bool)
  | number (n : Numeral)
  | text (s : String)
  | list (items : List Content)
  | table (members : List (Content × Content))
  deriving Repr

namespace Content

def natural? : Content → Option Nat
  | .number (.natural n) => some n
  | .number (.negative 0) => some 0
  | _ => none

def real? : Content → Option Binary64
  | .number n => some n.toBinary64
  | _ => none

/-- The field that a name stands for: a text names it, a number counts the fields from zero. -/
def fieldName? (fields : List String) : Content → Option String
  | .text s => some s
  | .number (.natural n) => some (fields.getD n "")
  | _ => none

/-- The members of a table under the names of fields. -/
def named? (fields : List String) : List (Content × Content) → Option (List (String × Content))
  | [] => some []
  | (key, value) :: rest =>
      match fieldName? fields key with
      | some name => (named? fields rest).map ((name, value) :: ·)
      | none => none

/-- The value as a record of the given fields. -/
def recordOf? (v : Content) (fields : List String) : Option (Form Content) :=
  match v with
  | .list items => some (Form.listed items) |>.filter (·.admits fields)
  | .table members => ((named? fields members).map Form.named).filter (·.admits fields)
  | _ => none

def isText (s : String) : Content → Bool
  | .text t => t == s
  | _ => false

/-- The value as one of several kinds: a table in which exactly one member has the given name, or a
list. The value of that member, or the first item, is the kind, and the rest describes it. -/
def variant? (name : String) : Content → Option (String × Content)
  | .list (.text kind :: rest) => some (kind, .list rest)
  | .table members =>
      match members.filter fun m => m.1.isText name with
      | [(_, .text kind)] => some (kind, .table (members.filter fun m => !m.1.isText name))
      | _ => none
  | _ => none

end Content

end HeaderRelay
