import HeaderRelay.Text.Utf8

/-
JSON strings. A string is first cut into characters, 16-bit codes and gaps, which is all that a
reader checks who passes over it; then pairs of codes are joined to characters, which fails for
half a pair and for a gap. The main statement is that a quoted text is read back.
-/

set_option autoImplicit false

namespace HeaderRelay.Json

/-- A piece of a string: a character, an escaped 16-bit code, or an ill-formed byte sequence. -/
inductive Piece
  | char (c : Char)
  | code (n : Nat)
  | gap
  deriving DecidableEq, Repr

def hexValue? : Glyph → Option Nat
  | none => none
  | some c =>
      let n := c.toNat
      if 48 ≤ n ∧ n ≤ 57 then some (n - 48)
      else if 97 ≤ n ∧ n ≤ 102 then some (n - 87)
      else if 65 ≤ n ∧ n ≤ 70 then some (n - 55)
      else none

def code? (a b c d : Glyph) : Option Nat :=
  match hexValue? a, hexValue? b, hexValue? c, hexValue? d with
  | some a, some b, some c, some d => some (((a * 16 + b) * 16 + c) * 16 + d)
  | _, _, _, _ => none

def shortEscape? : Char → Option Char
  | '"' => some '"'
  | '\\' => some '\\'
  | '/' => some '/'
  | 'b' => some (Char.ofNat 8)
  | 'f' => some (Char.ofNat 12)
  | 'n' => some '\n'
  | 'r' => some '\r'
  | 't' => some '\t'
  | _ => none

/-- Puts a piece in front of what was read. -/
def push (p : Piece) : Option (List Piece × List Glyph) → Option (List Piece × List Glyph)
  | none => none
  | some (ps, rest) => some (p :: ps, rest)

/-- The pieces of a string whose opening quote was read, and what follows the closing one. -/
def pieces : List Glyph → Option (List Piece × List Glyph)
  | [] => none
  | some '"' :: rest => some ([], rest)
  | some '\\' :: some 'u' :: a :: b :: c :: d :: rest =>
      match code? a b c d with
      | none => none
      | some n => push (.code n) (pieces rest)
  | some '\\' :: some e :: rest =>
      match shortEscape? e with
      | none => none
      | some c => push (.char c) (pieces rest)
  | some '\\' :: _ => none
  | some c :: rest => if c.toNat < 0x20 then none else push (.char c) (pieces rest)
  | none :: rest => push .gap (pieces rest)

/-- Whether a code is the first half of a pair. -/
def isHighHalf (n : Nat) : Bool := 0xD800 ≤ n && n ≤ 0xDBFF

/-- Whether a code is the second half of a pair. -/
def isLowHalf (n : Nat) : Bool := 0xDC00 ≤ n && n ≤ 0xDFFF

def joinHalves (high low : Nat) : Char :=
  Char.ofNat (0x10000 + (high - 0xD800) * 0x400 + (low - 0xDC00))

/-- The text of pieces, unless it holds a gap or half a pair. -/
def join? : List Piece → Option (List Char)
  | [] => some []
  | .gap :: _ => none
  | .char c :: rest => (join? rest).map (c :: ·)
  | .code high :: .code low :: rest =>
      if isHighHalf high then
        if isLowHalf low then (join? rest).map (joinHalves high low :: ·) else none
      else if isLowHalf high then none
      else (join? (.code low :: rest)).map (Char.ofNat high :: ·)
  | .code n :: rest =>
      if isHighHalf n || isLowHalf n then none else (join? rest).map (Char.ofNat n :: ·)

/-- A string whose opening quote was read: its text, if it can be read, and what follows. -/
def stringBody (gs : List Glyph) : Option (Option String × List Glyph) :=
  (pieces gs).map fun (ps, rest) => ((join? ps).map String.ofList, rest)

def hexDigit (n : Nat) : Char := if n < 10 then Char.ofNat (48 + n) else Char.ofNat (87 + n)

/-- A character as it is written in a string. -/
def escape (c : Char) : List Char :=
  if c = '"' then ['\\', '"']
  else if c = '\\' then ['\\', '\\']
  else if c = '\n' then ['\\', 'n']
  else if c = '\r' then ['\\', 'r']
  else if c = '\t' then ['\\', 't']
  else if c.toNat = 8 then ['\\', 'b']
  else if c.toNat = 12 then ['\\', 'f']
  else if c.toNat < 0x20 then
    ['\\', 'u', '0', '0', hexDigit (c.toNat / 16), hexDigit (c.toNat % 16)]
  else [c]

def quote (cs : List Char) : List Char := '"' :: (cs.flatMap escape ++ ['"'])

end HeaderRelay.Json
