/-
Binary floating-point numbers of 64 bits, as exact values: a sign, a whole mantissa and a power
of two. Every operation is one exact result, rounded once to the nearest number, a tie to the
even mantissa.
-/

set_option autoImplicit false

namespace HeaderRelay

/-- A floating-point number. A finite one is `mantissa * 2 ^ exponent`, with the sign given. -/
inductive Binary64
  | nan
  | infinite (negative : Bool)
  | finite (negative : Bool) (mantissa : Nat) (exponent : Int)
  deriving DecidableEq, Repr

namespace Binary64

def leastExponent : Int := -1074

def greatestExponent : Int := 971

def zero (negative : Bool) : Binary64 := .finite negative 0 leastExponent

/-- Whether `num / den` is at least `2 ^ k`. -/
def atLeastPower (num den : Nat) (k : Int) : Bool :=
  if 0 ≤ k then den * Nat.pow 2 k.toNat ≤ num else den ≤ num * Nat.pow 2 (-k).toNat

/-- The whole part of the binary logarithm of `num / den`, both positive. -/
def floorLog (num den : Nat) : Int :=
  let k : Int := (num.log2 : Int) - (den.log2 : Int)
  if atLeastPower num den k then k else k - 1

/-- `num / den` to the nearest whole number, a tie to the even one. -/
def nearest (num den : Nat) : Nat :=
  let q := num / den
  let twice := 2 * (num % den)
  if den < twice then q + 1
  else if twice = den ∧ q % 2 = 1 then q + 1
  else q

/-- The exponent on whose grid `num / den` is rounded. -/
def gridExponent (num den : Nat) : Int := max leastExponent (floorLog num den - 52)

/-- The whole multiple of `2 ^ e` nearest to `num / den`. -/
def nearestMultiple (num den : Nat) (e : Int) : Nat :=
  if 0 ≤ e then nearest num (den * Nat.pow 2 e.toNat) else nearest (num * Nat.pow 2 (-e).toNat) den

/-- The number nearest to `num / den`, with the sign given. -/
def round (negative : Bool) (num den : Nat) : Binary64 :=
  if num = 0 then zero negative
  else
    let e := gridExponent num den
    let q := nearestMultiple num den e
    let (m, e) := if q = Nat.pow 2 53 then (Nat.pow 2 52, e + 1) else (q, e)
    if greatestExponent < e then .infinite negative else .finite negative m e

def ofNat (n : Nat) : Binary64 := round false n 1

/-- The number nearest to `n * 10 ^ k`. -/
def ofScaled (negative : Bool) (n : Nat) (k : Int) : Binary64 :=
  if 0 ≤ k then round negative (n * Nat.pow 10 k.toNat) 1
  else round negative n (Nat.pow 10 (-k).toNat)

def numerator (mantissa : Nat) (exponent : Int) : Nat :=
  if 0 ≤ exponent then mantissa * Nat.pow 2 exponent.toNat else mantissa

def denominator (exponent : Int) : Nat :=
  if 0 ≤ exponent then 1 else Nat.pow 2 (-exponent).toNat

def neg : Binary64 → Binary64
  | .nan => .nan
  | .infinite s => .infinite (!s)
  | .finite s m e => .finite (!s) m e

def isInfinite : Binary64 → Bool
  | .infinite _ => true
  | _ => false

/-- Whether a number is a zero of either sign. -/
def isZero : Binary64 → Bool
  | .finite _ m _ => m == 0
  | _ => false

def mul : Binary64 → Binary64 → Binary64
  | .nan, _ => .nan
  | _, .nan => .nan
  | .infinite s, .infinite t => .infinite (s != t)
  | .infinite s, .finite t m _ => if m = 0 then .nan else .infinite (s != t)
  | .finite s m _, .infinite t => if m = 0 then .nan else .infinite (s != t)
  | .finite s m e, .finite t n f =>
      round (s != t) (numerator m e * numerator n f) (denominator e * denominator f)

def div : Binary64 → Binary64 → Binary64
  | .nan, _ => .nan
  | _, .nan => .nan
  | .infinite _, .infinite _ => .nan
  | .infinite s, .finite t _ _ => .infinite (s != t)
  | .finite s _ _, .infinite t => zero (s != t)
  | .finite s m e, .finite t n f =>
      if n = 0 then (if m = 0 then .nan else .infinite (s != t))
      else round (s != t) (numerator m e * denominator f) (denominator e * numerator n f)

/-- The exact value of a finite number as a numerator, over `denominator`. -/
def signedNumerator (negative : Bool) (mantissa : Nat) (exponent : Int) : Int :=
  if negative then -(numerator mantissa exponent : Int) else (numerator mantissa exponent : Int)

def add : Binary64 → Binary64 → Binary64
  | .nan, _ => .nan
  | _, .nan => .nan
  | .infinite s, .infinite t => if s = t then .infinite s else .nan
  | .infinite s, _ => .infinite s
  | _, .infinite t => .infinite t
  | .finite s m e, .finite t n f =>
      let top := signedNumerator s m e * denominator f + signedNumerator t n f * denominator e
      if top = 0 then zero (s && t)
      else round (top < 0) top.natAbs (denominator e * denominator f)

/-- Whether the first number is at least the second; never for a number that is none. -/
def ge : Binary64 → Binary64 → Bool
  | .nan, _ => false
  | _, .nan => false
  | .infinite false, _ => true
  | .infinite true, .infinite true => true
  | .infinite true, _ => false
  | _, .infinite true => true
  | _, .infinite false => false
  | .finite s m e, .finite t n f =>
      signedNumerator t n f * denominator e ≤ signedNumerator s m e * denominator f

def greatestWord : Nat := Nat.pow 2 64 - 1

/-- The whole part as a word of 64 bits: zero for negative numbers and for no number, the
greatest word for what is too large. -/
def toWord : Binary64 → Nat
  | .nan => 0
  | .infinite s => if s then 0 else greatestWord
  | .finite s m e => if s then 0 else min greatestWord (numerator m e / denominator e)

end Binary64

end HeaderRelay
