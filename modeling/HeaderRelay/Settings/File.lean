import HeaderRelay.Json.Placed
import HeaderRelay.Json.Printer
import HeaderRelay.Settings.Check
import HeaderRelay.Settings.Document
import HeaderRelay.Yaml.Placed

set_option autoImplicit false

namespace HeaderRelay.Settings

def ofText? (format : Format) (text : String) : Option Settings :=
  match format with
  | .yaml => Yaml.Placed.readText? shape read? text
  | .json => (Json.ofString? text).bind fun v => read? (Json.top v)

/-- Reads the file at a path, of which the content is given if there is any. -/
def load (path : String) (content : Option Bytes) : Except Defect Settings :=
  match content.bind Utf8.decode? with
  | none => .error (.unreadable path)
  | some text =>
      match ofText? (.ofPath path) text with
      | none => .error (.unparsable (.ofPath path) path)
      | some s => .ok s

def text (s : Settings) : String := s.toJson.toLines

/-- How many bytes the name of a file may have. -/
def longestName : Nat := 255

/-- How many bytes a path may have behind that of its directory. -/
def longestPath : Nat := 4079

/-- Whether a file can be at a path in a directory without any other directory in it. -/
def isPlace (path : String) : Bool :=
  match steps path.toList with
  | [] => false
  | name :: before =>
      !isStay name && !isUp name && before.all (fun step => isStay step || isUp step) &&
        !name.contains '\x00' && (Utf8.encode (String.ofList name)).length ≤ longestName &&
        (Utf8.encode path).length ≤ longestPath

/-- Writes the file at a path in a directory without any other directory in it. -/
def save (path : String) (s : Settings) : Except Defect Bytes :=
  if isPlace path then .ok (Utf8.encode s.text) else .error (.unwritable path)

end HeaderRelay.Settings
