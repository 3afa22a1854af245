import HeaderRelay.Text.Utf8

set_option autoImplicit false

namespace HeaderRelay.Utf16

/-- Which byte of a unit comes first. -/
inductive Order
  | low
  | high
  deriving DecidableEq, Repr

def Order.unit (order : Order) (a b : UInt8) : Nat :=
  match order with
  | .low => b.toNat * 256 + a.toNat
  | .high => a.toNat * 256 + b.toNat

/-- The bits of a unit that needs a partner behind it. -/
def leading? (unit : Nat) : Option Nat :=
  if 0xD800 ≤ unit ∧ unit < 0xDC00 then some (unit - 0xD800) else none

/-- The bits of a unit that needs a partner before it. -/
def trailing? (unit : Nat) : Option Nat :=
  if 0xDC00 ≤ unit ∧ unit < 0xE000 then some (unit - 0xDC00) else none

/-- What a unit stands for that follows no leading one: a character, a gap, or the bits of a
character still to come. -/
def first (unit : Nat) : Glyph ⊕ Nat :=
  match leading? unit, trailing? unit with
  | some bits, _ => .inr bits
  | none, some _ => .inl none
  | none, none => .inl (some (Char.ofNat unit))

/-- Reads the units that follow `open?`, the bits of a leading unit. What breaks off at the end is
one gap. -/
def glyphsFrom (order : Order) : Option Nat → Bytes → List Glyph
  | none, [] => []
  | some _, [] => [none]
  | _, [_] => [none]
  | none, a :: b :: rest =>
      match first (order.unit a b) with
      | .inl g => g :: glyphsFrom order none rest
      | .inr bits => glyphsFrom order (some bits) rest
  | some bits, a :: b :: rest =>
      match trailing? (order.unit a b), first (order.unit a b) with
      | some low, _ =>
          some (Char.ofNat (0x10000 + bits * 1024 + low)) :: glyphsFrom order none rest
      | none, .inl g => none :: g :: glyphsFrom order none rest
      | none, .inr bits => none :: glyphsFrom order (some bits) rest

/-- The characters of a byte sequence, with a gap for each unit that is none. -/
def glyphs (order : Order) (bytes : Bytes) : List Glyph := glyphsFrom order none bytes

end HeaderRelay.Utf16
