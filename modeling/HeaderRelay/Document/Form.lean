set_option autoImplicit false

namespace HeaderRelay

/-- A record as it is written, over the type of its values. -/
inductive Form (α : Type)
  | named (members : List (String × α))
  | listed (values : List α)

inductive Slot (α : Type)
  /-- The field has a value. -/
  | given (a : α)
  /-- The record is written by name, without this field. -/
  | unnamed
  /-- The record is a list that ends before this field. -/
  | beyond

namespace Form

variable {α : Type}

def under (members : List (String × α)) (name : String) : List α :=
  members.filterMap fun (key, a) => if key = name then some a else none

/-- Whether no field is written twice and a list has no value too many. -/
def admits (form : Form α) (names : List String) : Bool :=
  match form with
  | .named members => names.all fun name => (under members name).length ≤ 1
  | .listed values => values.length ≤ names.length

/-- What is written for the field of a name, which stands at an index in a list. -/
def field (form : Form α) (index : Nat) (name : String) : Slot α :=
  match form with
  | .named members =>
      match under members name with
      | [] => .unnamed
      | a :: _ => .given a
  | .listed values =>
      match values[index]? with
      | some a => .given a
      | none => .beyond

end Form

namespace Slot

variable {α β : Type}

def required (slot : Slot α) (read : α → Option β) : Option β :=
  match slot with
  | .given a => read a
  | _ => none

/-- A field that may be absent from a record written by name. -/
def optional (slot : Slot α) (read : α → Option (Option β)) : Option (Option β) :=
  match slot with
  | .given a => read a
  | .unnamed => some none
  | .beyond => none

def defaulted (slot : Slot α) (default : β) (read : α → Option β) : Option β :=
  match slot with
  | .given a => read a
  | _ => some default

end Slot

end HeaderRelay
