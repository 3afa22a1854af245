import HeaderRelay.Json.Basic
import HeaderRelay.Number.Binary64

/-
The number that a JSON literal stands for. A whole literal is an integer as long as it fits in
64 bits. Any other is a floating-point number: the leading digits that fit in 64 bits, scaled
once by a power of ten taken from a table of floating-point numbers.
-/

set_option autoImplicit false

namespace HeaderRelay

inductive Numeral
  | natural (n : Nat)
  /-- A number written with a minus sign, by its magnitude. -/
  | negative (n : Nat)
  | real (x : Binary64)
  deriving DecidableEq, Repr

namespace Literal

/-- Whole digits, with the leading ones in one word and the others counted. -/
structure Scan where
  significand : Nat
  /-- Digits that did not fit. -/
  dropped : Nat
  /-- Whether a digit did not fit, after which none is taken. -/
  full : Bool

/-- Takes one more digit before the point. -/
def Scan.pushWhole (s : Scan) (c : Char) : Scan :=
  let next := s.significand * 10 + Decimal.digitValue c
  if s.full || Binary64.greatestWord < next then ⟨s.significand, s.dropped + 1, true⟩
  else ⟨next, s.dropped, false⟩

/-- The leading digits before the point that fit in 64 bits. -/
def scanWhole (ds : List Char) : Scan := ds.foldl Scan.pushWhole ⟨0, 0, false⟩

/-- The digits after the point that still fit: the significand, and how many were taken. -/
def scanFraction (significand taken : Nat) : List Char → Nat × Nat
  | [] => (significand, taken)
  | c :: rest =>
      let next := significand * 10 + Decimal.digitValue c
      if Binary64.greatestWord < next then (significand, taken)
      else scanFraction next (taken + 1) rest

/-- The greatest exponent that is read digit by digit. -/
def greatestExponent : Nat := Nat.pow 2 31 - 1

def tablePower (k : Nat) : Binary64 := Binary64.ofScaled false 1 k

/-- Scales by a power of ten, which the table holds up to 308. A product out of range is no
number; a quotient comes down to zero. -/
def scale (fuel : Nat) (x : Binary64) (k : Int) : Option Binary64 :=
  if 0 ≤ k then
    if k ≤ 308 then
      let y := x.mul (tablePower k.toNat)
      if y.isInfinite then none else some y
    else if x.isZero then some x else none
  else if k.natAbs ≤ 308 then some (x.div (tablePower k.natAbs))
  else if x.isZero then some x
  else
    match fuel with
    | 0 => some x
    | fuel + 1 => scale fuel (x.div (tablePower 308)) (k + 308)

/-- The floating-point number of a significand and an exponent. -/
def real? (negative : Bool) (significand : Nat) (k : Int) : Option Binary64 :=
  (scale 8 (Binary64.ofNat significand) k).map fun x => if negative then x.neg else x

/-- The floating-point number with the given exponent digits, if any. -/
def scaled? (negative : Bool) (significand : Nat) (start : Int) :
    Option (Bool × List Char) → Option Binary64
  | none => real? negative significand start
  | some (down, ds) =>
      let k := Decimal.value ds
      if greatestExponent < k then
        if significand ≠ 0 ∧ down = false then none
        else some (Binary64.zero negative)
      else real? negative significand (if down then start - k else start + k)

/-- The number a literal stands for, unless it is out of range. -/
def numeral? (l : Literal) : Option Numeral :=
  let s := scanWhole l.whole
  match l.fraction with
  | none =>
      if s.full = true ∨ l.exponent.isSome = true then
        (scaled? l.negative s.significand s.dropped l.exponent).map .real
      else if l.negative = false then some (.natural s.significand)
      else if s.significand ≠ 0 ∧ s.significand ≤ Nat.pow 2 63 then some (.negative s.significand)
      else some (.real (Binary64.ofNat s.significand).neg)
  | some ds =>
      let (significand, taken) := scanFraction s.significand 0 ds
      (scaled? l.negative significand (s.dropped - taken) l.exponent).map .real

def natural? (l : Literal) : Option Nat :=
  match l.numeral? with
  | some (.natural n) => some n
  | _ => none

end Literal

def Numeral.toBinary64 : Numeral → Binary64
  | .natural n => Binary64.ofNat n
  | .negative n => if n = 0 then Binary64.ofNat 0 else (Binary64.ofNat n).neg
  | .real x => x

end HeaderRelay
