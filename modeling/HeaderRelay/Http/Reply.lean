import HeaderRelay.Http.Status
import HeaderRelay.Text.Utf16

set_option autoImplicit false

namespace HeaderRelay.Http

inductive Reply
  /-- No answer at all. -/
  | lost
  /-- An answer whose body breaks off. -/
  | broken (status : Nat)
  /-- An answer with its body. -/
  | complete (status : Nat) (body : Bytes)
  deriving DecidableEq, Repr

/-- The characters of a body. A mark in front tells how they are written. -/
def glyphs : Bytes → List Glyph
  | 0xFF :: 0xFE :: rest => Utf16.glyphs .low rest
  | 0xFE :: 0xFF :: rest => Utf16.glyphs .high rest
  | body => Utf8.dropMark (Utf8.glyphs body)

/-- A body as text: without a mark in front, and with a replacement for what is not well
formed. -/
def bodyText (body : Bytes) : String := Utf8.lossyText (glyphs body)

end HeaderRelay.Http
