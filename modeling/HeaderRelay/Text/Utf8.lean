/-
Text as it arrives: a list of bytes, read as UTF-8. A byte sequence that is no character
becomes a gap, so that readers which never look at it may pass over it. The main statement is
that text without gaps comes back unchanged.
-/

set_option autoImplicit false

namespace HeaderRelay

/-- The raw content of a message or a file. -/
abbrev Bytes := List UInt8

/-- A character, or a gap where the bytes are not well formed. -/
abbrev Glyph := Option Char

namespace Utf8

/-- A character of which some continuation bytes are still to come. -/
structure Partial where
  /-- Continuation bytes still owed, less one. -/
  more : Nat
  /-- The least byte that may follow. -/
  low : Nat
  /-- The greatest byte that may follow. -/
  high : Nat
  /-- The bits read so far. -/
  bits : Nat

/-- What a byte between characters begins: a whole character, a gap, or a longer character. -/
def first (b : Nat) : Glyph ⊕ Partial :=
  if b < 0x80 then .inl (some (Char.ofNat b))
  else if b < 0xC2 then .inl none
  else if b < 0xE0 then .inr ⟨0, 0x80, 0xBF, b - 0xC0⟩
  else if b = 0xE0 then .inr ⟨1, 0xA0, 0xBF, 0⟩
  else if b = 0xED then .inr ⟨1, 0x80, 0x9F, 0xD⟩
  else if b < 0xF0 then .inr ⟨1, 0x80, 0xBF, b - 0xE0⟩
  else if b = 0xF0 then .inr ⟨2, 0x90, 0xBF, 0⟩
  else if b < 0xF4 then .inr ⟨2, 0x80, 0xBF, b - 0xF0⟩
  else if b = 0xF4 then .inr ⟨2, 0x80, 0x8F, 4⟩
  else .inl none

/-- Reads the bytes that follow `open?`, a character of which the first bytes were read. A
sequence that breaks off is one gap, and the byte that breaks it starts afresh. -/
def glyphsFrom : Option Partial → Bytes → List Glyph
  | none, [] => []
  | some _, [] => [none]
  | none, b :: rest =>
      match first b.toNat with
      | .inl g => g :: glyphsFrom none rest
      | .inr p => glyphsFrom (some p) rest
  | some p, b :: rest =>
      if p.low ≤ b.toNat ∧ b.toNat ≤ p.high then
        let bits := p.bits * 64 + (b.toNat - 0x80)
        match p.more with
        | 0 => some (Char.ofNat bits) :: glyphsFrom none rest
        | more + 1 => glyphsFrom (some ⟨more, 0x80, 0xBF, bits⟩) rest
      else
        match first b.toNat with
        | .inl g => none :: g :: glyphsFrom none rest
        | .inr q => none :: glyphsFrom (some q) rest

/-- The characters of a byte sequence, with a gap for each ill-formed part. -/
def glyphs (bytes : Bytes) : List Glyph := glyphsFrom none bytes

/-- The text of glyphs without a gap. -/
def text? : List Glyph → Option (List Char)
  | [] => some []
  | none :: _ => none
  | some c :: rest => (text? rest).map (c :: ·)

/-- The text of a byte sequence that is UTF-8 throughout. -/
def decode? (bytes : Bytes) : Option String := (text? (glyphs bytes)).map String.ofList

/-- The text with U+FFFD in place of each gap. -/
def lossyText (gs : List Glyph) : String :=
  String.ofList (gs.map fun g => g.getD (Char.ofNat 0xFFFD))

def dropMark : List Glyph → List Glyph
  | some c :: rest => if c.toNat = 0xFEFF then rest else some c :: rest
  | gs => gs

def encode (s : String) : Bytes := s.toUTF8.toList

/-- A text as glyphs, none of them a gap. -/
def ofString (s : String) : List Glyph := s.toList.map some

theorem text?_map_some (cs : List Char) : text? (cs.map some) = some cs := by
  induction cs with
  | nil => rfl
  | cons c rest ih => simp [text?, ih]

end Utf8

end HeaderRelay
