set_option autoImplicit false

namespace HeaderRelay.Yaml

/-- Whether a character may stand in a text at all. -/
def isAllowed (c : Char) : Bool :=
  let n := c.toNat
  n == 9 || n == 10 || n == 13 || (0x20 ≤ n && n ≤ 0x7E) || n == 0x85 ||
    (0xA0 ≤ n && n ≤ 0xFFFD) || 0x10000 ≤ n

def isBlank (c : Char) : Bool := c == ' ' || c == '\t'

def isBreak (c : Char) : Bool :=
  c == '\n' || c == '\r' || c == '\u0085' || c == '\u2028' || c == '\u2029'

/-- Whether a word ends before what follows. -/
def endsWord : Option Char → Bool
  | none => true
  | some c => isBlank c || isBreak c

/-- A letter, a digit, an underscore or a hyphen. -/
def isNameChar (c : Char) : Bool := c.isAlphanum || c == '_' || c == '-'

/-- The mark that may stand in front of a line. -/
def byteOrderMark : Char := '\ufeff'

def width (cs : List Char) : Nat := cs.foldl (fun n c => n + c.utf8Size) 0

structure Cursor where
  /-- What follows. -/
  rest : List Char
  /-- How many bytes went before. -/
  index : Nat
  line : Nat
  column : Nat
  deriving Repr

namespace Cursor

def start (text : List Char) : Cursor := ⟨text, 0, 0, 0⟩

def peek? (c : Cursor) : Option Char := c.rest.head?

def sees (c : Cursor) (ch : Char) : Bool := c.peek? == some ch

def skip (c : Cursor) (count : Nat) : Cursor :=
  { c with
    rest := c.rest.drop count
    index := c.index + width (c.rest.take count)
    column := c.column + count }

/-- The characters in front that pass a test, all on one line, and what follows them. -/
def span (c : Cursor) (test : Char → Bool) : List Char × Cursor :=
  let taken := c.rest.takeWhile test
  (taken, c.skip taken.length)

/-- Skips the characters in front that pass a test, all on one line. -/
def skipWhile (c : Cursor) (test : Char → Bool) : Cursor := (c.span test).2

/-- What the line break in front stands for, and the next line. -/
def takeBreak? (c : Cursor) : Option (List Char × Cursor) :=
  match c.rest with
  | '\r' :: '\n' :: rest => some (['\n'], ⟨rest, c.index + 2, c.line + 1, 0⟩)
  | ch :: rest =>
      if isBreak ch then
        some ([if ch == '\u2028' || ch == '\u2029' then ch else '\n'],
          ⟨rest, c.index + ch.utf8Size, c.line + 1, 0⟩)
      else none
  | [] => none

def skipMark (c : Cursor) : Cursor :=
  if c.column == 0 && c.sees byteOrderMark then c.skip 1 else c

def skipComment (c : Cursor) : Cursor :=
  if c.sees '#' then c.skipWhile (!isBreak ·) else c

def atDocumentMark (c : Cursor) : Bool :=
  c.column == 0 && endsWord (c.rest.drop 3).head? &&
    (c.rest.take 3 == ['-', '-', '-'] || c.rest.take 3 == ['.', '.', '.'])

/-- Skips the rest of a line that holds nothing but blanks and a comment. -/
def finishLine? (c : Cursor) : Option Cursor :=
  let c := (c.skipWhile isBlank).skipComment
  match c.takeBreak? with
  | some (_, c) => some c
  | none => if c.rest.isEmpty then some c else none

end Cursor

end HeaderRelay.Yaml
