import HeaderRelay.Document.Content

set_option autoImplicit false

namespace HeaderRelay

/-- The ways to take a node of a document. -/
class Document (α : Type) where
  /-- As a text. -/
  text? : α → Option String
  /-- As a natural number of 64 bits. -/
  natural? : α → Option Nat
  /-- As one of several words. -/
  word? : α → Option String
  /-- Whether it says that a value is absent, unless it contradicts itself. -/
  absence? : α → Option Bool
  /-- As a record. -/
  form? : α → Option (Form α)
  /-- As one of several kinds, which a member of the given name tells: the kind and what describes
  it, read throughout. -/
  variant? : String → α → Option (String × Content)

namespace Document

variable {α β : Type} [Document α]

/-- As a natural number of at most the given size. -/
def naturalUpTo? (greatest : Nat) (a : α) : Option Nat := (natural? a).filter (· ≤ greatest)

def optional? (read : α → Option β) (a : α) : Option (Option β) :=
  match absence? a with
  | some absent => if absent then some none else (read a).map some
  | none => none

def recordOf? (a : α) (fields : List String) : Option (Form α) :=
  (form? a).filter (·.admits fields)

/-- As a value that is one of several words. -/
def choice? (read : String → Option β) (a : α) : Option β :=
  match word? a with
  | some word => read word
  | none => none

end Document

end HeaderRelay
