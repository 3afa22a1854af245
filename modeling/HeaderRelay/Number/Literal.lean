import HeaderRelay.Number.Decimal

set_option autoImplicit false

namespace HeaderRelay

structure Literal where
  negative : Bool
  /-- The digits before the point. -/
  whole : List Char
  /-- The digits after the point, if there is one. -/
  fraction : Option (List Char)
  /-- The sign, true for minus, and the digits of the exponent. -/
  exponent : Option (Bool × List Char)
  deriving DecidableEq, Repr

namespace Literal

def ofNat (n : Nat) : Literal := ⟨false, Decimal.digits n, none, none⟩

def chars (l : Literal) : List Char :=
  (if l.negative then ['-'] else []) ++ l.whole ++
    (match l.fraction with
    | none => []
    | some ds => '.' :: ds) ++
    (match l.exponent with
    | none => []
    | some (down, ds) => 'e' :: (if down then '-' else '+') :: ds)

end Literal

end HeaderRelay
