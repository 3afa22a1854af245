set_option autoImplicit false

namespace HeaderRelay.Punycode

/-- The value of a digit: letters, then the ten digits. -/
def digit? (c : Char) : Option Nat :=
  let n := c.toNat
  if 97 ≤ n ∧ n ≤ 122 then some (n - 97)
  else if 65 ≤ n ∧ n ≤ 90 then some (n - 65)
  else if 48 ≤ n ∧ n ≤ 57 then some (n - 22)
  else none

def base : Nat := 36

/-- From which value on a digit is not the last, for the digit of a weight class. -/
def threshold (k bias : Nat) : Nat :=
  if k ≤ bias then 1 else if bias + 26 ≤ k then 26 else k - bias

/-- Divides until the rest is small, and counts the divisions by the base. -/
def shrink : Nat → Nat → Nat → Nat × Nat
  | 0, delta, k => (delta, k)
  | fuel + 1, delta, k => if 455 < delta then shrink fuel (delta / 35) (k + base) else (delta, k)

/-- The bias after a character was inserted. -/
def adapt (delta count : Nat) (isFirst : Bool) : Nat :=
  let delta := if isFirst then delta / 700 else delta / 2
  let (delta, k) := shrink 64 (delta + delta / count) 0
  k + base * delta / (delta + 38)

/-- The greatest number that is read, and the greatest weight of a digit. -/
def greatest : Nat := Nat.pow 2 32 - 1

/-- Reads one number, its least significant digit first, and adds it to a sum. -/
def number? (bias : Nat) : Nat → Nat → Nat → List Char → Option (Nat × List Char)
  | _, _, _, [] => none
  | k, weight, sum, c :: rest =>
      match digit? c with
      | none => none
      | some d =>
          let sum := sum + d * weight
          let t := threshold k bias
          if greatest < sum then none
          else if d < t then some (sum, rest)
          else if greatest < weight * (base - t) then none
          else number? bias (k + base) (weight * (base - t)) sum rest

def char? (n : Nat) : Option Char := if n.isValidChar then some (Char.ofNat n) else none

/-- Inserts the characters that the numbers stand for; each number has at least one digit. -/
def insert? : Nat → List Char → Nat → Nat → Nat → List Char → Option (List Char)
  | _, out, _, _, _, [] => some out
  | 0, _, _, _, _, _ => none
  | fuel + 1, out, n, i, bias, c :: cs =>
      match number? bias base 1 i (c :: cs) with
      | none => none
      | some (sum, rest) =>
          let count := out.length + 1
          let n := n + sum / count
          let place := sum % count
          match char? n with
          | none => none
          | some ch =>
              insert? fuel (out.take place ++ ch :: out.drop place) n (place + 1)
                (adapt (sum - i) count (i == 0)) rest

def firstInserted : Nat := 128

/-- The name that a text stands for. The last hyphen ends the plain characters, if there are any
before it. -/
def decode? (cs : List Char) : Option (List Char) :=
  let code := (cs.reverse.takeWhile (· != '-')).reverse
  match cs.take (cs.length - code.length - 1) with
  | [] => insert? cs.length [] firstInserted 0 72 cs
  | plain => insert? code.length plain firstInserted 0 72 code

end HeaderRelay.Punycode
