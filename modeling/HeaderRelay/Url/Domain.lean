import HeaderRelay.Text.Percent
import HeaderRelay.Text.Punycode
import HeaderRelay.Unicode.Direction
import HeaderRelay.Unicode.Folding
import HeaderRelay.Unicode.Joining

/-
Domain names in URLs. Percent signs are decoded, characters are replaced by what they stand for,
and the text is made normal. Then every label is checked: which characters begin it, where it has
joiners, and, where any part of the domain is written from right to left, whether the label has one
direction. A label spelled with plain characters is checked as the name that it spells.
-/

set_option autoImplicit false

namespace HeaderRelay.Url

/-- Plain characters that may not stand in a domain. -/
def isForbidden (c : Char) : Bool :=
  c.toNat ≤ 0x20 || c.toNat == 0x7F || "%#/:<>?@[\\]^|".toList.contains c

def isPlain (c : Char) : Bool := c.toNat < 0x80

/-- What stands behind the mark of a label that spells a name with plain characters. -/
def spelling? (label : List Char) : Option (List Char) :=
  match label with
  | 'x' :: 'n' :: '-' :: '-' :: code => some code
  | _ => none

/-- How long the spelling of a name may be. -/
def longestSpelling : Nat := 2000

/-- How long a name that is not plain may be. -/
def longestName : Nat := 1000

/-- Whether a spelled name needs to be spelled and could stand in a domain as it is. -/
def isSpellable (name : List Char) : Bool :=
  !name.all isPlain && name.all (fun c => Unicode.fold? c == some [c]) &&
    Unicode.normalize name == name && (spelling? name).isNone

def name? (label : List Char) : Option (List Char) :=
  match spelling? label with
  | none => if label.all isPlain || label.length ≤ longestName then some label else none
  | some code =>
      if code.all isPlain && code.length ≤ longestSpelling then
        (Punycode.decode? code).filter isSpellable
      else none

/-- Whether a vowel is silent at the end of a text, which stands last character first. -/
def endsSilent (before : List Char) : Bool :=
  match before with
  | c :: _ => Unicode.combiningClass c == Unicode.viramaClass
  | [] => false

/-- The first character that is not passed over when characters join. -/
def joined? (cs : List Char) : Option Unicode.Joining :=
  ((cs.map Unicode.joining).dropWhile (· == .transparent)).head?

/-- Whether the characters on both sides would join; those before stand last first. -/
def wouldJoin (before after : List Char) : Bool :=
  (joined? before).any (·.isOpenAfter) && (joined? after).any (·.isOpenBefore)

def nonJoiner : Char := '\u200C'

def joiner : Char := '\u200D'

/-- Whether a character may stand between others as far as it is a joiner. -/
def fits (before : List Char) (c : Char) (after : List Char) : Bool :=
  if c = joiner then endsSilent before
  else if c = nonJoiner then endsSilent before || wouldJoin before after
  else true

/-- Whether all joiners behind some characters, which stand last first, make a difference. -/
def allFit (before : List Char) : List Char → Bool
  | [] => true
  | c :: after => fits before c after && allFit (c :: before) after

/-- Whether a name may stand in a domain of any direction. -/
def isName (name : List Char) : Bool :=
  match name with
  | [] => true
  | c :: _ => (Unicode.mark? c).isNone && allFit [] name

/-- Whether a character is written from right to left, or a number among such ones. -/
def isLeftward (c : Char) : Bool :=
  !isPlain c && (Unicode.direction c == .rightToLeft || Unicode.direction c == .arabicNumber)

def endDirection? (ds : List Unicode.Direction) : Option Unicode.Direction :=
  (ds.reverse.dropWhile (· == .inherited)).head?

/-- Whether a name has one direction, and does not mix numbers of both kinds in one from right to
left. -/
def hasOneDirection (name : List Char) : Bool :=
  let ds := name.map Unicode.direction
  match ds.head? with
  | none => true
  | some .leftToRight =>
      !ds.contains .rightToLeft && !ds.contains .arabicNumber &&
        (endDirection? ds).any fun d => d == .leftToRight || d == .europeanNumber
  | some .rightToLeft =>
      !ds.contains .leftToRight && !(ds.contains .europeanNumber && ds.contains .arabicNumber) &&
        (endDirection? ds).any fun d =>
          d == .rightToLeft || d == .europeanNumber || d == .arabicNumber
  | some _ => false

def names? : List (List Char) → Option (List (List Char))
  | [] => some []
  | label :: labels =>
      match name? label, names? labels with
      | some name, some names => some (name :: names)
      | _, _ => none

def fitTogether (names : List (List Char)) : Bool :=
  names.all isName && (!names.any (·.any isLeftward) || names.all hasOneDirection)

def domain? (cs : List Char) : Option (List Char) := do
  let text ← Utf8.decode? (Percent.decode (Utf8.encode (String.ofList cs)))
  let domain := Unicode.normalize (← Unicode.foldText? text.toList)
  let names ← names? (domain.splitOn '.')
  if !domain.any isForbidden && fitTogether names then some domain else none

end HeaderRelay.Url
