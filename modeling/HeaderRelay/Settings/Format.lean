set_option autoImplicit false

namespace HeaderRelay.Settings

inductive Format
  | yaml
  | json
  deriving DecidableEq, Repr

/-- What stands after the last dot of a file name, if anything stands before it. -/
def extension? (name : List Char) : Option (List Char) :=
  let (after, rest) := name.reverse.span (· != '.')
  match rest with
  | [] => none
  | [_] => none
  | _ => some after.reverse

/-- Whether a step of a path stays in the directory. -/
def isStay (step : List Char) : Bool := step == [] || step == ['.']

/-- Whether a step of a path leads to the directory above. -/
def isUp (step : List Char) : Bool := step == ['.', '.']

/-- The steps of a path between slashes, the latest first. -/
def steps (path : List Char) : List (List Char) := (path.splitOn '/').reverse

/-- The steps of a path that go somewhere, the latest first. -/
def parts (path : List Char) : List (List Char) := (steps path).filter fun step => !isStay step

/-- The last part of a path, unless it leads up. -/
def fileName? (path : List Char) : Option (List Char) :=
  match parts path with
  | [] => none
  | part :: _ => if isUp part then none else some part

def Format.ofPath (path : String) : Format :=
  match (fileName? path.toList).bind extension? with
  | some ['y', 'a', 'm', 'l'] => .yaml
  | some ['y', 'm', 'l'] => .yaml
  | _ => .json

end HeaderRelay.Settings
