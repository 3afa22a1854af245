import HeaderRelay.Text.Percent

set_option autoImplicit false

namespace HeaderRelay.Server

namespace Query

/-- A plus sign stands for a space. -/
def unplus (b : UInt8) : UInt8 := if b = 0x2B then 0x20 else b

/-- The text that a name or a value stands for. -/
def decodeText (bytes : Bytes) : String :=
  Utf8.lossyText (Utf8.glyphs (Percent.decode (bytes.map unplus)))

def splitAt (separator : UInt8) : Bytes → List Bytes
  | [] => [[]]
  | b :: rest =>
      if b = separator then [] :: splitAt separator rest
      else
        match splitAt separator rest with
        | [] => [[b]]
        | part :: parts => (b :: part) :: parts

/-- The names and values of a query, in order. -/
def pairs (query : String) : List (String × String) :=
  ((splitAt 0x26 (Utf8.encode query)).filter (!·.isEmpty)).map fun part =>
    (decodeText (part.takeWhile (· != 0x3D)),
      decodeText ((part.dropWhile (· != 0x3D)).drop 1))

/-- The value of a name that is given exactly once. -/
def value? (query name : String) : Option String :=
  match (pairs query).filter fun pair => pair.1 == name with
  | [(_, value)] => some value
  | _ => none

end Query

end HeaderRelay.Server
