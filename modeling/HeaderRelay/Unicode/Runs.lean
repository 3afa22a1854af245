import HeaderRelay.Number.Decimal

set_option autoImplicit false

namespace HeaderRelay.Unicode

/-- So many characters in a row, and what is said of them. -/
abbrev Run (α : Type) := Nat × α

namespace Run

def ofToken {α : Type} (read : List Char → α) (token : List Char) : Run α :=
  let digits := token.takeWhile Decimal.isDigit
  (Decimal.value digits, read (token.drop digits.length))

def ofLines {α : Type} (read : List Char → α) (lines : List String) : List (Run α) :=
  lines.flatMap fun line => (line.toList.splitOn ' ').map (ofToken read)

/-- What is said of the character at a place, and how many characters of its run stand before
it. -/
def find? {α : Type} : List (Run α) → Nat → Option (α × Nat)
  | [], _ => none
  | (count, a) :: rest, place => if place < count then some (a, place) else find? rest (place - count)

end Run

end HeaderRelay.Unicode
