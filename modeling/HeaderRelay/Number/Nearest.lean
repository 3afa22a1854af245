import HeaderRelay.Number.Binary64
import HeaderRelay.Number.Literal

set_option autoImplicit false

namespace HeaderRelay.Literal

/-- All digits, as a natural number. -/
def significand (l : Literal) : Nat := Decimal.value (l.whole ++ l.fraction.getD [])

/-- The power of ten that the digits are scaled by. -/
def power (l : Literal) : Int :=
  let places : Int := ((l.fraction.getD []).length : Nat)
  match l.exponent with
  | none => -places
  | some (down, ds) => (if down then -(Decimal.value ds : Int) else (Decimal.value ds : Int)) - places

/-- More digits than any finite number has on either side of the point. -/
def farthest : Int := 400

/-- The nearest floating-point number, unless that is infinite. -/
def nearest? (l : Literal) : Option Binary64 :=
  let n := l.significand
  let reach := l.power + ((Decimal.digits n).length : Nat)
  if n = 0 ∨ reach < -farthest then some (Binary64.zero l.negative)
  else if farthest < reach then none
  else
    let x := Binary64.ofScaled l.negative n l.power
    if x.isInfinite then none else some x

end HeaderRelay.Literal
