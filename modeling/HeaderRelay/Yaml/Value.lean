import HeaderRelay.Document.Content
import HeaderRelay.Number.Nearest
import HeaderRelay.Text.Hex
import HeaderRelay.Yaml.Node

set_option autoImplicit false

namespace HeaderRelay.Yaml.Scalar

def isNull (text : String) : Bool := ["null", "Null", "NULL", "~"].contains text

def bool? (text : String) : Option Bool :=
  if ["true", "True", "TRUE"].contains text then some true
  else if ["false", "False", "FALSE"].contains text then some false
  else none

/-- The value of one or more digits of a radix. -/
def digits? (radix : Nat) (cs : List Char) : Option Nat :=
  if cs.isEmpty then none
  else
    cs.foldl (fun value? c =>
      match value?, if c.toNat < 128 then Hex.digit? (UInt8.ofNat c.toNat) else none with
      | some value, some digit => if digit < radix then some (value * radix + digit) else none
      | _, _ => none) (some 0)

/-- A text without one sign in front. -/
def unsigned : List Char → List Char
  | '+' :: rest => rest
  | '-' :: rest => rest
  | cs => cs

/-- Whether a text is digits behind a leading zero. -/
def isZeroLed (cs : List Char) : Bool :=
  match unsigned cs with
  | '0' :: d :: rest => (d :: rest).all Decimal.isDigit
  | _ => false

/-- The magnitude of an integer without a sign: the radix may stand in front of the digits. -/
def magnitude? (cs : List Char) : Option Nat :=
  match cs with
  | '0' :: 'x' :: rest => digits? 16 rest
  | '0' :: 'o' :: rest => digits? 8 rest
  | '0' :: 'b' :: rest => digits? 2 rest
  | _ => if isZeroLed cs then none else digits? 10 cs

def natural? (text : String) : Option Nat :=
  match text.toList with
  | '+' :: rest => magnitude? rest
  | cs => magnitude? cs

/-- The magnitude of a text with a minus sign in front. -/
def negative? (text : String) : Option Nat :=
  match text.toList with
  | '-' :: rest => magnitude? rest
  | _ => none

def greatestNatural : Nat := Nat.pow 2 64 - 1

/-- The numeral of an integer. The outer option is empty for a text that is none of 128 bits, the
inner one for an integer of more than 64 bits. -/
def integer? (text : String) : Option (Option Numeral) :=
  match natural? text, negative? text with
  | some n, _ =>
      if n ≤ greatestNatural then some (some (.natural n))
      else if n < Nat.pow 2 128 then some none
      else none
  | none, some n =>
      if n ≤ Nat.pow 2 63 then some (some (.negative n))
      else if n ≤ Nat.pow 2 127 then some none
      else none
  | none, none => none

def sign : List Char → Bool × List Char
  | '-' :: rest => (true, rest)
  | '+' :: rest => (false, rest)
  | cs => (false, cs)

/-- A decimal number. Digits may be missing on one side of the point. -/
def literal? (cs : List Char) : Option Literal :=
  let (negative, cs) := sign cs
  let (whole, cs) := cs.span Decimal.isDigit
  let (fraction, cs) :=
    match cs with
    | '.' :: rest =>
        let (fraction, rest) := rest.span Decimal.isDigit
        (some fraction, rest)
    | _ => (none, cs)
  if whole.isEmpty ∧ (fraction.getD []).isEmpty then none
  else
    match cs with
    | [] => some ⟨negative, whole, fraction, none⟩
    | mark :: rest =>
        let (down, ds) := sign rest
        if (mark = 'e' ∨ mark = 'E') ∧ ds ≠ [] ∧ ds.all Decimal.isDigit = true then
          some ⟨negative, whole, fraction, some (down, ds)⟩
        else none

def real? (text : String) : Option Binary64 :=
  if [".inf", ".Inf", ".INF", "+.inf", "+.Inf", "+.INF"].contains text then some (.infinite false)
  else if ["-.inf", "-.Inf", "-.INF"].contains text then some (.infinite true)
  else if [".nan", ".NaN", ".NAN"].contains text then some .nan
  else (literal? text.toList).bind Literal.nearest?

/-- What a plain scalar stands for, unless that is an integer out of range. -/
def plain? (text : String) : Option Content :=
  if text.isEmpty || isNull text then some .null
  else
    match bool? text, integer? text with
    | some b, _ => some (.bool b)
    | none, some numeral => numeral.map .number
    | none, none =>
        if isZeroLed text.toList then some (.text text)
        else
          match real? text with
          | some x => some (.number (.real x))
          | none => some (.text text)

/-- A tag of the language itself. -/
def core (name : String) : Bytes := Utf8.encode ("tag:yaml.org,2002:" ++ name)

/-- Whether a tag belongs to the document itself. -/
def isLocal (tag : Bytes) : Bool := tag.head? == some 0x21

/-- The name of a tag that belongs to the document itself, if it is a text. -/
def localName? (tag : Option Bytes) : Option String :=
  (tag.filter isLocal).bind fun bytes => Utf8.decode? (bytes.drop 1)

/-- What a scalar stands for under a tag without a local name. -/
def tagged? (tag : Bytes) (style : Style) (text : String) : Option Content :=
  if tag = core "bool" then (bool? text).map .bool
  else if tag = core "int" then
    match integer? text with
    | some (some numeral) => some (.number numeral)
    | _ => none
  else if tag = core "float" then (real? text).map fun x => .number (.real x)
  else if tag = core "null" then if isNull text then some .null else none
  else if isLocal tag = true ∧ style = .plain then plain? text
  else some (.text text)

/-- What a scalar stands for. A local name says that it is of a kind of its own. -/
def content? (tag : Option Bytes) (style : Style) (text : String) : Option Content :=
  if (localName? tag).isSome then none
  else
    match tag with
    | some tag => tagged? tag style text
    | none => if style = .plain then plain? text else some (.text text)

/-- Whether a scalar is null where a value may be absent. -/
def absence? (tag : Option Bytes) (style : Style) (text : String) : Option Bool :=
  if style ≠ .plain then some false
  else if tag = some (core "null") then if isNull text then some true else none
  else some (tag.isNone && (text.isEmpty || isNull text))

/-- A scalar as one of several words. A local name is the word by itself. -/
def word? (tag : Option Bytes) (style : Style) (text : String) : Option String :=
  match localName? tag with
  | some name =>
      if style = .plain ∧ (text.isEmpty || isNull text) = true then some name else none
  | none => some text

/-- A scalar as a natural number of 64 bits. -/
def word64? (tag : Option Bytes) (style : Style) (text : String) : Option Nat :=
  if style = .plain ∨ (style = .literal ∧ tag = some (core "int")) then
    (natural? text).filter (· ≤ greatestNatural)
  else none

end HeaderRelay.Yaml.Scalar
