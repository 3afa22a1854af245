import HeaderRelay.Number.Binary64
import HeaderRelay.Number.Literal

set_option autoImplicit false

namespace HeaderRelay.Shortest

/-- A fraction of natural numbers, the second of them positive. -/
structure Fraction where
  num : Nat
  den : Nat

def Fraction.lt (a b : Fraction) : Bool := a.num * b.den < b.num * a.den

/-- Whether the first fraction is at most the second. -/
def Fraction.le (a b : Fraction) : Bool := a.num * b.den ≤ b.num * a.den

def Fraction.distance (a b : Fraction) : Fraction :=
  ⟨(a.num * b.den - b.num * a.den) + (b.num * a.den - a.num * b.den), a.den * b.den⟩

def binary (n : Nat) (k : Int) : Fraction :=
  ⟨Binary64.numerator n k, Binary64.denominator k⟩

def decimal (n : Nat) (k : Int) : Fraction :=
  if 0 ≤ k then ⟨n * Nat.pow 10 k.toNat, 1⟩ else ⟨n, Nat.pow 10 (-k).toNat⟩

/-- The reals that round to `m * 2 ^ e`: the bounds, and whether they belong to it. -/
structure Interval where
  low : Fraction
  high : Fraction
  closed : Bool

/-- The reals that round to `m * 2 ^ e`. Below a power of two the neighbour is half as far. -/
def Interval.around (m : Nat) (e : Int) : Interval :=
  let low :=
    if m = Nat.pow 2 52 ∧ Binary64.leastExponent < e then binary (4 * m - 1) (e - 2)
    else binary (2 * m - 1) (e - 1)
  ⟨low, binary (2 * m + 1) (e - 1), m % 2 = 0⟩

def Interval.contains (i : Interval) (x : Fraction) : Bool :=
  if i.closed then i.low.le x && x.le i.high else i.low.lt x && x.lt i.high

/-- The whole part of the decimal logarithm of a positive fraction, searched downwards from
`start`. -/
def floorLog10 (x : Fraction) : Nat → Int → Int
  | 0, start => start
  | fuel + 1, start => if (decimal 1 start).le x then start else floorLog10 x fuel (start - 1)

/-- The multiple of `10 ^ k` in the interval that is nearest to `x`, as its number of steps. -/
def onGrid (i : Interval) (x : Fraction) (k : Int) : Option Nat :=
  let step := decimal 1 k
  let below := (x.num * step.den) / (x.den * step.num)
  let above := below + 1
  let lower := decimal below k
  let upper := decimal above k
  match i.contains lower && below != 0, i.contains upper with
  | true, true =>
      let down := x.distance lower
      let up := x.distance upper
      if down.lt up then some below
      else if up.lt down then some above
      else if below % 2 = 0 then some below else some above
  | true, false => some below
  | false, true => some above
  | false, false => none

/-- Tries grids of more and more digits: `digits` of them, the greatest at `10 ^ top`. -/
def search (i : Interval) (x : Fraction) (top : Int) : Nat → Nat → Nat × Int
  | 0, digits => ((onGrid i x (top - digits + 1)).getD 0, top - digits + 1)
  | fuel + 1, digits =>
      let k := top - digits + 1
      match onGrid i x k with
      | some n => (n, k)
      | none => search i x top fuel (digits + 1)

/-- Drops zeros at the end of the digits. -/
def strip : Nat → Nat → Int → Nat × Int
  | 0, n, k => (n, k)
  | fuel + 1, n, k => if n ≠ 0 ∧ n % 10 = 0 then strip fuel (n / 10) (k + 1) else (n, k)

/-- The shortest decimal `n * 10 ^ k` that reads back as `m * 2 ^ e`, where `m` is positive. -/
def ofBinary (m : Nat) (e : Int) : Nat × Int :=
  let x := binary m e
  let top := floorLog10 x 700 309
  let (n, k) := search (Interval.around m e) x top 16 1
  strip 20 n k

/-- Digits with a point: positional from 10⁻⁵ on and below 10¹⁶, always with a fraction, and
with an exponent beyond. -/
def layout (negative : Bool) (ds : List Char) (k : Int) : Literal :=
  let point : Int := ds.length + k
  if 0 ≤ k ∧ point ≤ 16 then ⟨negative, ds ++ List.replicate k.toNat '0', some ['0'], none⟩
  else if 0 < point ∧ point ≤ 16 then
    ⟨negative, ds.take point.toNat, some (ds.drop point.toNat), none⟩
  else if -5 < point ∧ point ≤ 0 then
    ⟨negative, ['0'], some (List.replicate (-point).toNat '0' ++ ds), none⟩
  else
    let exponent := some (decide (point < 1), Decimal.digits (point - 1).natAbs)
    match ds with
    | [] => ⟨negative, [], none, exponent⟩
    | [d] => ⟨negative, [d], none, exponent⟩
    | d :: rest => ⟨negative, [d], some rest, exponent⟩

/-- The shortest literal of a finite number; other numbers have none. -/
def literal? : Binary64 → Option Literal
  | .finite negative m e =>
      if m = 0 then some ⟨negative, ['0'], some ['0'], none⟩
      else
        let (n, k) := ofBinary m e
        some (layout negative (Decimal.digits n) k)
  | _ => none

end HeaderRelay.Shortest
