import HeaderRelay.Json.Basic
import HeaderRelay.Json.Text
import HeaderRelay.Number.Shortest

set_option autoImplicit false

namespace HeaderRelay

namespace Json

/-- A string; one that is unreadable is written as the empty string. -/
def quoteText (s : Option String) : List Char := quote ((s.getD "").toList)

mutual

/-- A value on one line, without white space. -/
def render : Json → List Char
  | .null => "null".toList
  | .bool true => "true".toList
  | .bool false => "false".toList
  | .number l => l.chars
  | .string s => quoteText s
  | .array items => '[' :: (renderItems items ++ [']'])
  | .object members => '\x7b' :: (renderMembers members ++ ['\x7d'])

def renderItems : List Json → List Char
  | [] => []
  | [v] => render v
  | v :: w :: rest => render v ++ ',' :: renderItems (w :: rest)

def renderMembers : List (Option String × Json) → List Char
  | [] => []
  | [(name, v)] => quoteText name ++ ':' :: render v
  | (name, v) :: m :: rest => quoteText name ++ ':' :: (render v ++ ',' :: renderMembers (m :: rest))

end

/-- A line break and the indentation of a level. -/
def lineBreak (level : Nat) : List Char := '\n' :: List.replicate (2 * level) ' '

mutual

/-- A value over several lines, from the given level of indentation. -/
def renderLines (level : Nat) : Json → List Char
  | .null => "null".toList
  | .bool true => "true".toList
  | .bool false => "false".toList
  | .number l => l.chars
  | .string s => quoteText s
  | .array [] => ['[', ']']
  | .array (v :: vs) =>
      '[' :: (lineBreak (level + 1) ++ renderLines (level + 1) v ++ itemLines (level + 1) vs ++
        lineBreak level ++ [']'])
  | .object [] => ['\x7b', '\x7d']
  | .object ((name, v) :: ms) =>
      '\x7b' :: (lineBreak (level + 1) ++ quoteText name ++ ':' :: ' ' ::
        (renderLines (level + 1) v ++ memberLines (level + 1) ms ++ lineBreak level ++ ['\x7d']))

/-- The items after the first, each on a line of its own. -/
def itemLines (level : Nat) : List Json → List Char
  | [] => []
  | v :: rest => ',' :: (lineBreak level ++ renderLines level v ++ itemLines level rest)

/-- The members after the first, each on a line of its own. -/
def memberLines (level : Nat) : List (Option String × Json) → List Char
  | [] => []
  | (name, v) :: rest =>
      ',' :: (lineBreak level ++ quoteText name ++ ':' :: ' ' ::
        (renderLines level v ++ memberLines level rest))

end

def toText (v : Json) : String := String.ofList v.render

def toLines (v : Json) : String := String.ofList (v.renderLines 0)

/-- A floating-point number by its shortest digits; what is not finite is written as null. -/
def real (x : Binary64) : Json :=
  match Shortest.literal? x with
  | some l => .number l
  | none => .null

end Json

end HeaderRelay
