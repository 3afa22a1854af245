import HeaderRelay.Json.Basic
import HeaderRelay.Json.Text

set_option autoImplicit false

namespace HeaderRelay.Json

def isSpace : Glyph → Bool
  | some ' ' => true
  | some '\n' => true
  | some '\t' => true
  | some '\r' => true
  | _ => false

def skipSpace (gs : List Glyph) : List Glyph := gs.dropWhile isSpace

def digits : List Glyph → List Char × List Glyph
  | some c :: rest =>
      if Decimal.isDigit c then
        let (ds, after) := digits rest
        (c :: ds, after)
      else ([], some c :: rest)
  | gs => ([], gs)

/-- Reads the fraction of a number, if there is one. -/
def fraction (gs : List Glyph) : Option (Option (List Char) × List Glyph) :=
  match gs with
  | some '.' :: rest =>
      match digits rest with
      | ([], _) => none
      | (ds, after) => some (some ds, after)
  | _ => some (none, gs)

/-- Reads a sign; true for minus. -/
def sign : List Glyph → Bool × List Glyph
  | some '-' :: rest => (true, rest)
  | some '+' :: rest => (false, rest)
  | gs => (false, gs)

def isExponentMark : Glyph → Bool
  | some 'e' => true
  | some 'E' => true
  | _ => false

/-- Reads the exponent of a number, if there is one. -/
def exponent (gs : List Glyph) : Option (Option (Bool × List Char) × List Glyph) :=
  match gs with
  | g :: rest =>
      if isExponentMark g then
        let (down, rest) := sign rest
        match digits rest with
        | ([], _) => none
        | (ds, after) => some (some (down, ds), after)
      else some (none, gs)
  | [] => some (none, gs)

/-- Reads a number without its sign. -/
def unsigned (negative : Bool) (gs : List Glyph) : Option (Literal × List Glyph) :=
  match digits gs with
  | ([], _) => none
  | ('0' :: _ :: _, _) => none
  | (whole, rest) =>
      match fraction rest with
      | none => none
      | some (fraction, rest) =>
          match exponent rest with
          | none => none
          | some (exponent, rest) => some (⟨negative, whole, fraction, exponent⟩, rest)

def literal (gs : List Glyph) : Option (Literal × List Glyph) :=
  match gs with
  | some '-' :: rest => unsigned true rest
  | _ => unsigned false gs

def word : List Glyph → Option (Json × List Glyph)
  | some 'n' :: some 'u' :: some 'l' :: some 'l' :: rest => some (.null, rest)
  | some 't' :: some 'r' :: some 'u' :: some 'e' :: rest => some (.bool true, rest)
  | some 'f' :: some 'a' :: some 'l' :: some 's' :: some 'e' :: rest => some (.bool false, rest)
  | _ => none

def scalar (gs : List Glyph) : Option (Json × List Glyph) :=
  match gs with
  | some 'n' :: _ => word gs
  | some 't' :: _ => word gs
  | some 'f' :: _ => word gs
  | _ => (literal gs).map fun (l, rest) => (.number l, rest)

mutual

/-- Reads one value, after white space. -/
def value : Nat → List Glyph → Option (Json × List Glyph)
  | 0, _ => none
  | fuel + 1, gs =>
      match skipSpace gs with
      | some '"' :: rest => (stringBody rest).map fun (s, after) => (.string s, after)
      | some '[' :: rest =>
          match skipSpace rest with
          | some ']' :: after => some (.array [], after)
          | body => (items fuel body).map fun (vs, after) => (.array vs, after)
      | some '\x7b' :: rest =>
          match skipSpace rest with
          | some '\x7d' :: after => some (.object [], after)
          | body => (members fuel body).map fun (ms, after) => (.object ms, after)
      | body => scalar body

/-- Reads one or more items up to the closing bracket. -/
def items : Nat → List Glyph → Option (List Json × List Glyph)
  | 0, _ => none
  | fuel + 1, gs =>
      match value fuel gs with
      | none => none
      | some (v, rest) =>
          match skipSpace rest with
          | some ',' :: more => (items fuel more).map fun (vs, after) => (v :: vs, after)
          | some ']' :: after => some ([v], after)
          | _ => none

/-- Reads one or more members up to the closing brace. -/
def members : Nat → List Glyph → Option (List (Option String × Json) × List Glyph)
  | 0, _ => none
  | fuel + 1, gs =>
      match skipSpace gs with
      | some '"' :: rest =>
          match stringBody rest with
          | none => none
          | some (name, rest) =>
              match skipSpace rest with
              | some ':' :: rest =>
                  match value fuel rest with
                  | none => none
                  | some (v, rest) =>
                      match skipSpace rest with
                      | some ',' :: more =>
                          (members fuel more).map fun (ms, after) => ((name, v) :: ms, after)
                      | some '\x7d' :: after => some ([(name, v)], after)
                      | _ => none
              | _ => none
      | _ => none

end

/-- Steps that suffice for any value within a text: each level of nesting takes two. -/
def fuelFor (gs : List Glyph) : Nat := 2 * gs.length + 2

def read (gs : List Glyph) : Option (Json × List Glyph) := value (fuelFor gs) gs

/-- Reads a text that is one value and nothing else. -/
def parse? (gs : List Glyph) : Option Json :=
  match read gs with
  | some (v, rest) => if skipSpace rest = [] then some v else none
  | none => none

def ofBytes? (bytes : Bytes) : Option Json := parse? (Utf8.glyphs bytes)

def ofString? (s : String) : Option Json := parse? (Utf8.ofString s)

end HeaderRelay.Json
