import HeaderRelay.Yaml.Scalar
import HeaderRelay.Yaml.Tag

/-
The tokens of a text. Outside of brackets, columns open and close blocks, and what precedes a
colon on its line turns out to be a key, whose mark is put in front of it afterwards.
-/

set_option autoImplicit false

namespace HeaderRelay.Yaml

/-- A token that may turn out to begin a key. -/
structure Candidate where
  /-- How many tokens went before it. -/
  place : Nat
  index : Nat
  line : Nat
  column : Nat
  /-- Whether nothing but a key may stand there. -/
  required : Bool
  deriving Repr

def longestKey : Nat := 1024

/-- A candidate, as long as a colon at the cursor would make it a key. -/
def Candidate.refresh? (cursor : Cursor) : Option Candidate → Option (Option Candidate)
  | none => some none
  | some k =>
      if k.line < cursor.line ∨ k.index + longestKey < cursor.index then
        if k.required then none else some none
      else some (some k)

/-- What is known of a text up to a place in it. -/
structure Layout where
  cursor : Cursor
  /-- The tokens so far, the latest first. -/
  tokens : List Token
  /-- One more than the column of the innermost block; zero outside of all blocks. -/
  margin : Nat
  /-- The margins of the blocks around it, the innermost first. -/
  margins : List Nat
  /-- Whether a key may begin here. -/
  keyAllowed : Bool
  key : Option Candidate
  /-- The candidates around each open bracket, the innermost first. -/
  outer : List (Option Candidate)
  deriving Repr

namespace Layout

def start (text : List Char) : Layout := ⟨Cursor.start text, [], 0, [], true, none, []⟩

def isFlow (s : Layout) : Bool := !s.outer.isEmpty

/-- One more token, which takes so many characters. -/
def push (s : Layout) (token : Token) (width : Nat) : Layout :=
  { s with tokens := token :: s.tokens, cursor := s.cursor.skip width }

/-- A token behind the first ones, of which the number is given. -/
def insert (s : Layout) (place : Nat) (token : Token) : Layout :=
  let later := s.tokens.length - place
  { s with tokens := s.tokens.take later ++ token :: s.tokens.drop later }

/-- Opens a block at a column right of the innermost one. -/
def openBlock (s : Layout) (column place : Nat) (token : Token) : Layout :=
  if s.isFlow || column < s.margin then s
  else { s.insert place token with margin := column + 1, margins := s.margin :: s.margins }

def openHere (s : Layout) (token : Token) : Layout :=
  s.openBlock s.cursor.column s.tokens.length token

/-- The margins that are at most the given one, and how many are not. -/
def unwind (limit margin : Nat) : List Nat → Nat × List Nat × Nat
  | [] => (margin, [], 0)
  | next :: rest =>
      if margin ≤ limit then (margin, next :: rest, 0)
      else
        let (margin, margins, count) := unwind limit next rest
        (margin, margins, count + 1)

def closeBlocks (s : Layout) (limit : Nat) : Layout :=
  if s.isFlow then s
  else
    let (margin, margins, count) := unwind limit s.margin s.margins
    { s with margin, margins, tokens := List.replicate count .blockEnd ++ s.tokens }

def dropKey? (s : Layout) : Option Layout :=
  if s.key.any (·.required) then none else some { s with key := none }

/-- Takes the next token for a candidate, where a key may begin. -/
def saveKey? (s : Layout) : Option Layout :=
  if !s.keyAllowed then some s
  else do
    let s ← s.dropKey?
    let c := s.cursor
    let required := !s.isFlow && s.margin == c.column + 1
    return { s with key := some ⟨s.tokens.length, c.index, c.line, c.column, required⟩ }

/-- Skips blanks, comments, line breaks and the marks in front of lines. -/
def skipGaps : Nat → Layout → Layout
  | 0, s => s
  | fuel + 1, s =>
      let isGap := fun (ch : Char) => ch == ' ' || (ch == '\t' && (s.isFlow || !s.keyAllowed))
      let cursor := (s.cursor.skipMark.skipWhile isGap).skipComment
      match cursor.takeBreak? with
      | some (_, cursor) =>
          skipGaps fuel { s with cursor, keyAllowed := s.keyAllowed || !s.isFlow }
      | none => { s with cursor }

/-- Gives up the candidates that a colon at the cursor comes too late for. -/
def refresh? (s : Layout) : Option Layout := do
  let key ← Candidate.refresh? s.cursor s.key
  let outer ← s.outer.mapM (Candidate.refresh? s.cursor)
  return { s with key, outer }

def endBlocks? (s : Layout) : Option Layout :=
  (s.closeBlocks 0).dropKey?.map fun s => { s with keyAllowed := false }

def openFlow? (s : Layout) (token : Token) : Option Layout := do
  let s ← s.saveKey?
  return { s.push token 1 with outer := s.key :: s.outer, key := none, keyAllowed := true }

def closeFlow? (s : Layout) (token : Token) : Option Layout := do
  let s ← s.dropKey?
  let s := { s.push token 1 with keyAllowed := false }
  match s.outer with
  | key :: outer => some { s with key, outer }
  | [] => some s

/-- A mark of an entry, a key or a value, at which a block may begin. -/
def mark? (s : Layout) (block : Token) (token : Token) (keyAllowed : Bool) : Option Layout :=
  if !s.isFlow && !s.keyAllowed then none
  else do
    let s ← (s.openHere block).dropKey?
    return { s.push token 1 with keyAllowed }

/-- A colon behind a key, or behind nothing. -/
def value? (s : Layout) : Option Layout :=
  match s.key with
  | some k =>
      let s := (s.insert k.place .key).openBlock k.column k.place .blockMappingStart
      some { s.push .value 1 with key := none, keyAllowed := false }
  | none => s.mark? .blockMappingStart .value !s.isFlow

def atom? (s : Layout) (read : Cursor → Option (Token × Bool × Cursor)) : Option Layout := do
  let s ← s.saveKey?
  let (token, keyAllowed, cursor) ← read s.cursor
  return { s with tokens := token :: s.tokens, keyAllowed, cursor }

def block? (s : Layout) (style : Style) : Option Layout := do
  let s ← s.dropKey?
  let (text, cursor) ← Block.read? (style == .literal) s.margin s.cursor
  return { s with
    tokens := .scalar style (String.ofList text) :: s.tokens, keyAllowed := true, cursor }

def quoted? (s : Layout) (style : Style) : Option Layout :=
  s.atom? fun c => do
    let (text, c) ← Quoted.read? (style == .single) c
    return (.scalar style (String.ofList text), false, c)

/-- A plain scalar. A key may follow it if a line ended behind it. -/
def plain? (s : Layout) : Option Layout :=
  s.atom? fun c => do
    let (text, broken, c) ← Plain.read? s.isFlow s.margin c
    return (.scalar .plain (String.ofList text), broken, c)

def isIndicator (ch : Char) : Bool := "-?:,[]\x7b\x7d#&*!|>'\"%@\x60".toList.contains ch

/-- Whether a plain scalar begins with a character, given the one behind it. -/
def beginsPlain (flow : Bool) (ch : Char) (after : Option Char) : Bool :=
  !(isBlank ch || isBreak ch || isIndicator ch) || (ch == '-' && !after.any isBlank) ||
    (!flow && (ch == '?' || ch == ':') && !endsWord after)

/-- The token that begins with a character, given the one behind it. -/
def token? (s : Layout) (ch : Char) (after : Option Char) : Option Layout :=
  match ch with
  | '[' => s.openFlow? .flowSequenceStart
  | '\x7b' => s.openFlow? .flowMappingStart
  | ']' => s.closeFlow? .flowSequenceEnd
  | '\x7d' => s.closeFlow? .flowMappingEnd
  | ',' => s.dropKey?.map fun s => { s.push .flowEntry 1 with keyAllowed := true }
  | '*' => s.atom? fun c => (name? c).map fun (name, c) => (.alias name, false, c)
  | '&' => s.atom? fun c => (name? c).map fun (name, c) => (.anchor name, false, c)
  | '!' => s.atom? fun c => (Tag.read? s.isFlow c).map fun (tag, c) => (tag, false, c)
  | '\'' => s.quoted? .single
  | '"' => s.quoted? .double
  | _ =>
      if ch == '-' && endsWord after then s.mark? .blockSequenceStart .blockEntry true
      else if ch == '?' && (s.isFlow || endsWord after) then s.mark? .blockMappingStart .key !s.isFlow
      else if ch == ':' && (s.isFlow || endsWord after) then s.value?
      else if ch == '|' && !s.isFlow then s.block? .literal
      else if ch == '>' && !s.isFlow then s.block? .folded
      else if beginsPlain s.isFlow ch after then s.plain?
      else none

/-- The next token, or whatever stands at the first column. -/
def step? (s : Layout) : Option Layout :=
  match s.cursor.rest with
  | [] => none
  | ch :: rest =>
      if s.cursor.column = 0 ∧ ch = '%' then do
        let s ← s.endBlocks?
        let (token, cursor) ← Directive.read? s.cursor
        return { s with tokens := token :: s.tokens, cursor }
      else if s.cursor.atDocumentMark then do
        let s ← s.endBlocks?
        return s.push (if ch = '-' then .documentStart else .documentEnd) 3
      else s.token? ch rest.head?

def tokensFrom? : Nat → Layout → Option (List Token)
  | 0, _ => none
  | fuel + 1, s => do
      let s ← (skipGaps (s.cursor.rest.length + 1) s).refresh?
      let s := s.closeBlocks (s.cursor.column + 1)
      if s.cursor.rest.isEmpty then (·.tokens.reverse) <$> s.endBlocks?
      else tokensFrom? fuel (← s.step?)

end Layout

def tokens? (text : List Char) : Option (List Token) :=
  if text.all isAllowed then Layout.tokensFrom? (text.length + 1) (Layout.start text) else none

end HeaderRelay.Yaml
