import HeaderRelay.Number.Decimal
import HeaderRelay.Text.Hex

set_option autoImplicit false

namespace HeaderRelay.Url

def hexValue? (c : Char) : Option Nat :=
  if c.toNat < 128 then Hex.digit? (UInt8.ofNat c.toNat) else none

/-- The digits of a number, and the base in which they are read. -/
def numeral (cs : List Char) : Nat × List Char :=
  match cs with
  | '0' :: 'x' :: ds => (16, ds)
  | '0' :: 'X' :: ds => (16, ds)
  | '0' :: d :: ds => (8, d :: ds)
  | _ => (10, cs)

/-- The value of digits in a base, if they all are digits of it. -/
def digitsValue? (base : Nat) (ds : List Char) : Option Nat :=
  ds.foldl (fun value? d =>
    match value?, hexValue? d with
    | some value, some digit => if digit < base then some (value * base + digit) else none
    | _, _ => none) (some 0)

/-- The number of a part of an address; a mark without digits is zero. -/
def partValue? (cs : List Char) : Option Nat :=
  if cs.isEmpty then none else digitsValue? (numeral cs).1 (numeral cs).2

/-- The parts between dots; a dot at the end adds none. -/
def dotted (cs : List Char) : List (List Char) :=
  let parts := cs.splitOn '.'
  if parts.getLast? = some [] then parts.dropLast else parts

/-- Whether a domain has to be an address, as its last part is a number. -/
def endsInNumber (domain : List Char) : Bool :=
  match (dotted domain).getLast? with
  | none => false
  | some part => (!part.isEmpty && part.all Decimal.isDigit) || (partValue? part).isSome

def partValues? : List (List Char) → Option (List Nat)
  | [] => some []
  | part :: parts =>
      match partValue? part, partValues? parts with
      | some value, some values => some (value :: values)
      | _, _ => none

/-- The address of numbers. Each but the last is one byte, and the last fills what is left. -/
def joinParts? : List Nat → Option Nat
  | [] => none
  | values =>
      let (heads, last) := (values.dropLast, values.getLast?.getD 0)
      let left := 4 - heads.length
      if values.length ≤ 4 ∧ heads.all (· ≤ 255) = true ∧ last < Nat.pow 256 left then
        some (heads.foldl (fun n b => n * 256 + b) 0 * Nat.pow 256 left + last)
      else none

def ipv4? (domain : List Char) : Option Nat := (partValues? (dotted domain)).bind joinParts?

/-- The groups of an address: those before the gap, and those after it, if there is a gap. -/
structure Groups where
  before : List Nat
  after : Option (List Nat)
  deriving DecidableEq, Repr

namespace Groups

/-- The places that are taken; the gap takes at least one. -/
def size (g : Groups) : Nat :=
  g.before.length + (match g.after with
    | none => 0
    | some groups => groups.length + 1)

def push (g : Groups) (value : Nat) : Groups :=
  match g.after with
  | none => { g with before := g.before ++ [value] }
  | some groups => { g with after := some (groups ++ [value]) }

/-- All eight groups; a gap is filled with zeros. -/
def fill? (g : Groups) : Option (List Nat) :=
  match g.after with
  | none => if g.before.length = 8 then some g.before else none
  | some groups =>
      some (g.before ++ List.replicate (8 - (g.before.length + groups.length)) 0 ++ groups)

end Groups

/-- A byte in decimal digits, without leading zeros. -/
def byte? (ds : List Char) : Option Nat :=
  match ds with
  | '0' :: _ :: _ => none
  | _ => (Decimal.value? ds).filter (· ≤ 255)

/-- Two groups spelled as four bytes with dots between them. -/
def tail? (g : Groups) (cs : List Char) : Option Groups :=
  match (cs.splitOn '.').map byte? with
  | [some a, some b, some c, some d] =>
      if g.size ≤ 6 then some ((g.push (a * 256 + b)).push (c * 256 + d)) else none
  | _ => none

/-- Reads the groups of an address; every step but the last takes at least one character. -/
def groups? : Nat → Groups → List Char → Option Groups
  | _, g, [] => some g
  | 0, _, _ => none
  | fuel + 1, g, c :: cs =>
      if g.size = 8 then none
      else if c = ':' then
        if g.after.isSome then none else groups? fuel { g with after := some [] } cs
      else
        let ds := ((c :: cs).take 4).takeWhile fun d => (hexValue? d).isSome
        match (c :: cs).drop ds.length, digitsValue? 16 ds with
        | [], some value => some (g.push value)
        | ':' :: d :: rest, some value => groups? fuel (g.push value) (d :: rest)
        | '.' :: _, _ => if ds.isEmpty then none else tail? g (c :: cs)
        | _, _ => none

def ipv6? (cs : List Char) : Option (List Nat) :=
  match cs with
  | ':' :: ':' :: rest => (groups? rest.length ⟨[], some []⟩ rest).bind Groups.fill?
  | ':' :: _ => none
  | _ => (groups? cs.length ⟨[], none⟩ cs).bind Groups.fill?

end HeaderRelay.Url
