import HeaderRelay.Number.Decimal
import HeaderRelay.Text.Hex
import HeaderRelay.Yaml.Cursor
import HeaderRelay.Yaml.Token

set_option autoImplicit false

namespace HeaderRelay.Yaml

/-- Characters that may follow a name without a blank between. -/
def endsName : Option Char → Bool
  | none => true
  | some c => endsWord (some c) || "?:,]\x7d%@\x60".toList.contains c

/-- Reads a name behind the mark of an anchor or an alias, which stands here. -/
def name? (c : Cursor) : Option (String × Cursor) :=
  let (text, c) := (c.skip 1).span isNameChar
  if text ≠ [] ∧ endsName c.peek? = true then some (String.ofList text, c) else none

namespace Tag

/-- Characters of a tag. Some of them stand only where no bracket can be meant. -/
def isTagChar (wide : Bool) (c : Char) : Bool :=
  isNameChar c || ";/?:@&=+$.%!~*'()".toList.contains c || (wide && ",[]".toList.contains c)

/-- How many bytes have to follow a byte behind a percent sign. -/
def followers? (b : UInt8) : Option Nat :=
  let n := b.toNat
  if n < 0x80 then some 0
  else if n < 0xC0 then none
  else if n < 0xE0 then some 1
  else if n < 0xF0 then some 2
  else if n < 0xF8 then some 3
  else none

def isFollower (b : UInt8) : Bool := 0x80 ≤ b.toNat && b.toNat < 0xC0

/-- The bytes that characters stand for, of which the first `owed` follow a byte before. A percent
sign takes two hexadecimal digits; the bytes need not be a text. -/
def bytes? (owed : Nat) : List Char → Option Bytes
  | [] => if owed = 0 then some [] else none
  | '%' :: high :: low :: rest =>
      match Hex.decodeText (String.ofList [high, low]), owed with
      | .ok [b], 0 => (followers? b).bind fun owed => (bytes? owed rest).map (b :: ·)
      | .ok [b], owed + 1 => if isFollower b then (bytes? owed rest).map (b :: ·) else none
      | _, _ => none
  | c :: rest =>
      if c = '%' ∨ owed ≠ 0 then none else (bytes? 0 rest).map (UInt8.ofNat c.toNat :: ·)

def text? (wide : Bool) (c : Cursor) : Option (Bytes × Cursor) :=
  let (written, c) := c.span (isTagChar wide)
  (bytes? 0 written).map (·, c)

/-- Reads characters of a tag, of which there must be some. -/
def nonempty? (wide : Bool) (c : Cursor) : Option (Bytes × Cursor) :=
  (text? wide c).filter fun found => !found.1.isEmpty

/-- The tag that says nothing. -/
def bare : Bytes := Utf8.encode "!"

/-- Reads an exclamation mark and the name behind it, which another one may close. -/
def handle (c : Cursor) : List Char × Bool × Cursor :=
  let (name, c) := (c.skip 1).span isNameChar
  if c.sees '!' then (name, true, c.skip 1) else (name, false, c)

/-- Reads a tag, which begins here, as a handle and what it is put before. -/
def parts? (c : Cursor) : Option (String × Bytes × Cursor) :=
  if (c.skip 1).sees '<' then do
    let (text, c) ← nonempty? true (c.skip 2)
    if c.sees '>' then some ("", text, c.skip 1) else none
  else
    match handle c with
    | (name, true, c) => do
        let (text, c) ← nonempty? false c
        return (String.ofList ('!' :: name ++ ['!']), text, c)
    | (name, false, c) => do
        let (text, c) ← text? false c
        let text := Utf8.encode (String.ofList name) ++ text
        return if text.isEmpty then ("", bare, c) else ("!", text, c)

/-- Reads a tag and sees to it that it ends where a word ends. -/
def read? (flow : Bool) (c : Cursor) : Option (Token × Cursor) := do
  let (handle, suffix, c) ← parts? c
  if endsWord c.peek? || (flow && c.sees ',') then some (.tag handle suffix, c) else none

end Tag

namespace Directive

def mostDigits : Nat := 9

def number? (c : Cursor) : Option (Nat × Cursor) :=
  let (digits, c) := c.span Decimal.isDigit
  if digits.length ≤ mostDigits then (Decimal.value? digits).map (·, c) else none

def version? (c : Cursor) : Option (Token × Cursor) := do
  let (major, c) ← number? (c.skipWhile isBlank)
  if c.sees '.' then
    let (minor, c) ← number? (c.skip 1)
    return (.version major minor, c)
  else none

def handle? (c : Cursor) : Option (Token × Cursor) := do
  let c := c.skipWhile isBlank
  if !c.sees '!' then none
  else
    let (name, closed, c) := Tag.handle c
    if (!closed && name ≠ []) || !c.peek?.any isBlank then none
    else
      let (meaning, c) ← Tag.nonempty? true (c.skipWhile isBlank)
      let name := '!' :: name ++ (if closed then ['!'] else [])
      if endsWord c.peek? then some (.handle (String.ofList name) meaning, c) else none

/-- Reads a directive, which begins here, to the end of its line. -/
def read? (c : Cursor) : Option (Token × Cursor) := do
  let (name, c) := (c.skip 1).span isNameChar
  if !endsWord c.peek? then none
  else
    let (token, c) ←
      if name == ['Y', 'A', 'M', 'L'] then version? c
      else if name == ['T', 'A', 'G'] then handle? c
      else none
    let c ← c.finishLine?
    return (token, c)

end Directive

end HeaderRelay.Yaml
