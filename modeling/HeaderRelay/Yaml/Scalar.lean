import HeaderRelay.Number.Decimal
import HeaderRelay.Text.Hex
import HeaderRelay.Yaml.Cursor

set_option autoImplicit false

namespace HeaderRelay.Yaml

/-- What parts two words of a scalar. -/
structure Gap where
  /-- The blanks, as long as no line ended. -/
  blanks : List Char
  /-- The first line break. -/
  first : List Char
  /-- The other line breaks. -/
  others : List Char
  /-- Whether a line ended. -/
  broken : Bool
  deriving Repr

namespace Gap

/-- Nothing between two words. -/
def none : Gap := ⟨[], [], [], false⟩

/-- A line break that leaves nothing. -/
def escaped : Gap := ⟨[], [], [], true⟩

def push (g : Gap) (text : List Char) : Gap :=
  if g.broken then { g with others := g.others ++ text } else ⟨[], text, [], true⟩

def fold (g : Gap) : List Char :=
  if g.broken then
    if g.first = ['\n'] then (if g.others.isEmpty then [' '] else g.others)
    else g.first ++ g.others
  else g.blanks

/-- Reads blanks and line breaks. Where a line has begun, a tab must not stand left of the
margin. -/
def read? (margin : Nat) : Nat → Gap → Cursor → Option (Gap × Cursor)
  | 0, g, c => some (g, c)
  | fuel + 1, g, c =>
      match c.takeBreak?, c.peek? with
      | some (text, c), _ => read? margin fuel (g.push text) c
      | _, some ch =>
          if !isBlank ch then some (g, c)
          else if !g.broken then read? margin fuel { g with blanks := g.blanks ++ [ch] } (c.skip 1)
          else if ch = '\t' ∧ c.column < margin then Option.none
          else read? margin fuel g (c.skip 1)
      | _, _ => some (g, c)

end Gap

namespace Plain

/-- Characters that end a plain scalar inside of brackets. -/
def isFlowMark (c : Char) : Bool := ",[]\x7b\x7d".toList.contains c

/-- Whether a colon before this is at fault inside of brackets. -/
def spoilsColon : Option Char → Bool
  | some c => isFlowMark c || c == '?'
  | _ => false

def word? (flow : Bool) : List Char → Option (List Char)
  | [] => some []
  | c :: rest =>
      if isBlank c || isBreak c then some []
      else if flow && c == ':' && spoilsColon rest.head? then none
      else if (c == ':' && endsWord rest.head?) || (flow && isFlowMark c) then some []
      else (word? flow rest).map (c :: ·)

/-- Reads on after a text and a gap. The outcome also says whether a line ended behind the
scalar. -/
def readFrom? (flow : Bool) (margin : Nat) :
    Nat → List Char → Gap → Cursor → Option (List Char × Bool × Cursor)
  | 0, _, _, _ => none
  | fuel + 1, text, gap, c =>
      if c.atDocumentMark || c.sees '#' then some (text, gap.broken, c)
      else do
        let word ← word? flow c.rest
        let (text, gap) :=
          if word.isEmpty then (text, gap) else (text ++ gap.fold ++ word, Gap.none)
        let c := c.skip word.length
        if c.rest.isEmpty || !endsWord c.peek? then some (text, gap.broken, c)
        else
          let (gap, c) ← gap.read? margin (c.rest.length + 1) c
          if !flow && c.column < margin then some (text, gap.broken, c)
          else readFrom? flow margin fuel text gap c

def read? (flow : Bool) (margin : Nat) (c : Cursor) : Option (List Char × Bool × Cursor) :=
  readFrom? flow margin (c.rest.length + 1) [] Gap.none c

end Plain

namespace Quoted

def hexValue? (cs : List Char) : Option Nat :=
  cs.foldl (fun value? c =>
    match value?, if c.toNat < 128 then Hex.digit? (UInt8.ofNat c.toNat) else none with
    | some value, some digit => some (value * 16 + digit)
    | _, _ => none) (some 0)

def numbered? (count : Nat) (cs : List Char) : Option (Char × Nat) := do
  if cs.length < count then none
  else
    let value ← hexValue? (cs.take count)
    if value.isValidChar then some (Char.ofNat value, count + 1) else none

/-- The character that an escape stands for, and the characters it takes behind its backslash. -/
def escape? : List Char → Option (Char × Nat)
  | [] => none
  | c :: rest =>
      match c with
      | '0' => some ('\x00', 1)
      | 'a' => some ('\x07', 1)
      | 'b' => some ('\x08', 1)
      | 't' => some ('\t', 1)
      | '\t' => some ('\t', 1)
      | 'n' => some ('\n', 1)
      | 'v' => some ('\x0b', 1)
      | 'f' => some ('\x0c', 1)
      | 'r' => some ('\r', 1)
      | 'e' => some ('\x1b', 1)
      | ' ' => some (' ', 1)
      | '"' => some ('"', 1)
      | '/' => some ('/', 1)
      | '\\' => some ('\\', 1)
      | 'N' => some ('\u0085', 1)
      | '_' => some ('\u00a0', 1)
      | 'L' => some ('\u2028', 1)
      | 'P' => some ('\u2029', 1)
      | 'x' => numbered? 2 rest
      | 'u' => numbered? 4 rest
      | 'U' => numbered? 8 rest
      | _ => none

def mark (single : Bool) : Char := if single then '\'' else '"'

/-- Reads up to a blank, a line break or the closing quote. The outcome also says whether an
escaped line break came last. -/
def word? (single : Bool) : Nat → Cursor → Option (List Char × Bool × Cursor)
  | 0, c => some ([], false, c)
  | fuel + 1, c =>
      match c.rest with
      | [] => some ([], false, c)
      | ch :: rest =>
          let more := fun (ch : Char) (count : Nat) => do
            let (text, escaped, c) ← word? single fuel (c.skip count)
            return (ch :: text, escaped, c)
          if isBlank ch || isBreak ch then some ([], false, c)
          else if single && ch == '\'' && rest.head? == some '\'' then more '\'' 2
          else if ch == mark single then some ([], false, c)
          else if single || ch != '\\' then more ch 1
          else
            match (c.skip 1).takeBreak? with
            | some (_, c) => some ([], true, c)
            | none =>
                match escape? rest with
                | some (ch, count) => more ch (count + 1)
                | none => none

/-- Reads on after a text. -/
def readFrom? (single : Bool) : Nat → List Char → Cursor → Option (List Char × Cursor)
  | 0, _, _ => none
  | fuel + 1, text, c =>
      if c.atDocumentMark || c.rest.isEmpty then none
      else do
        let (word, escaped, c) ← word? single (c.rest.length + 1) c
        if c.sees (mark single) then some (text ++ word, c.skip 1)
        else
          let gap := if escaped then Gap.escaped else Gap.none
          let (gap, c) ← gap.read? 0 (c.rest.length + 1) c
          readFrom? single fuel (text ++ word ++ gap.fold) c

/-- Reads a scalar in quotes, which begins here. -/
def read? (single : Bool) (c : Cursor) : Option (List Char × Cursor) :=
  readFrom? single (c.rest.length + 1) [] (c.skip 1)

end Quoted

namespace Block

/-- What becomes of the line breaks at the end of a block. -/
inductive Chomp
  /-- One of them stays. -/
  | clip
  /-- None of them stays. -/
  | strip
  /-- All of them stay. -/
  | keep
  deriving DecidableEq, Repr

/-- Reads what is said of the line breaks at the end. -/
def chomp (c : Cursor) : Chomp × Cursor :=
  if c.sees '+' then (.keep, c.skip 1)
  else if c.sees '-' then (.strip, c.skip 1)
  else (.clip, c)

/-- Reads what is said of the indentation; zero stands for nothing. -/
def increment? (c : Cursor) : Option (Nat × Cursor) :=
  match c.peek? with
  | some '0' => none
  | some ch => if Decimal.isDigit ch then some (Decimal.digitValue ch, c.skip 1) else some (0, c)
  | none => some (0, c)

/-- Reads what is said behind the mark, in either order. -/
def header? (c : Cursor) : Option (Chomp × Nat × Cursor) :=
  if c.sees '+' || c.sees '-' then do
    let (chomp, c) := chomp c
    let (increment, c) ← increment? c
    return (chomp, increment, c)
  else do
    let (increment, c) ← increment? c
    let (chomp, c) := if increment = 0 then (Chomp.clip, c) else chomp c
    return (chomp, increment, c)

/-- Skips spaces left of an indentation; zero stands for one that is not known yet. -/
def skipIndent (indent : Nat) (c : Cursor) : Cursor :=
  let spaces := (c.span (· == ' ')).1.length
  c.skip (if indent = 0 then spaces else min spaces (indent - c.column))

/-- Reads line breaks and the spaces left of the indentation. The outcome also says which column
was the greatest. -/
def breaks? (indent : Nat) : Nat → Nat → List Char → Cursor → Option (Nat × List Char × Cursor)
  | 0, deepest, breaks, c => some (deepest, breaks, c)
  | fuel + 1, deepest, breaks, c =>
      let c := skipIndent indent c
      let deepest := max deepest c.column
      if (indent = 0 ∨ c.column < indent) ∧ c.sees '\t' = true then none
      else
        match c.takeBreak? with
        | some (text, c) => breaks? indent fuel deepest (breaks ++ text) c
        | none => some (deepest, breaks, c)

structure Lines where
  text : List Char
  /-- The line break after the last line. -/
  last : List Char
  /-- The line breaks of empty lines after it. -/
  empty : List Char
  /-- Whether the last line began with a blank. -/
  indented : Bool

/-- What joins the lines read before to a new one. -/
def Lines.join (ls : Lines) (literal indented : Bool) : List Char :=
  if !literal && ls.last == ['\n'] && !ls.indented && !indented then
    if ls.empty.isEmpty then [' '] else ls.empty
  else ls.last ++ ls.empty

def lines? (literal : Bool) (indent : Nat) : Nat → Lines → Cursor → Option (Lines × Cursor)
  | 0, ls, c => some (ls, c)
  | fuel + 1, ls, c =>
      if c.column ≠ indent ∨ c.rest.isEmpty = true then some (ls, c)
      else do
        let indented := c.rest.head?.any isBlank
        let (line, c) := c.span (!isBreak ·)
        let (last, c) := c.takeBreak?.getD ([], c)
        let (_, empty, c) ← breaks? indent (c.rest.length + 1) 0 [] c
        lines? literal indent fuel
          ⟨ls.text ++ ls.join literal indented ++ line, last, empty, indented⟩ c

/-- The text of a block, with what stays of the line breaks at its end. -/
def Lines.finish (ls : Lines) : Chomp → List Char
  | .strip => ls.text
  | .clip => ls.text ++ ls.last
  | .keep => ls.text ++ ls.last ++ ls.empty

/-- Reads a block below a mark, which stands here. -/
def read? (literal : Bool) (margin : Nat) (c : Cursor) : Option (List Char × Cursor) := do
  let (chomp, increment, c) ← header? (c.skip 1)
  let c ← c.finishLine?
  let given := if increment = 0 then 0 else margin - 1 + increment
  let (deepest, empty, c) ← breaks? given (c.rest.length + 1) 0 [] c
  let indent := if given = 0 then max deepest (max margin 1) else given
  let (ls, c) ← lines? literal indent (c.rest.length + 1) ⟨[], [], empty, false⟩ c
  return (ls.finish chomp, c)

end Block

end HeaderRelay.Yaml
