set_option autoImplicit false

namespace HeaderRelay.Server

inductive TargetDefect
  | malformed
  | tooLong
  deriving DecidableEq, Repr

/-- The status of the response to a target that cannot be used. -/
def TargetDefect.status : TargetDefect → Nat
  | .malformed => 400
  | .tooLong => 414

/-- The path and the query of a request. -/
structure Target where
  path : String
  query : String
  deriving DecidableEq, Repr

namespace Target

def longest : Nat := 65534

/-- Whether a character may stand in a target at all. -/
def isVisible (c : Char) : Bool := 0x20 < c.toNat && c.toNat != 0x7F

def isPathChar (c : Char) : Bool := isVisible c && !"#<>?\x60".toList.contains c

def isQueryChar (c : Char) : Bool := isVisible c && !"\"#<>".toList.contains c

/-- Reads a path and a query. A path that is left out is a slash. -/
def place? (cs : List Char) : Option Target :=
  let path := cs.takeWhile isPathChar
  let path' := String.ofList (if path.isEmpty then ['/'] else path)
  match cs.drop path.length with
  | [] => some ⟨path', ""⟩
  | '#' :: _ => some ⟨path', ""⟩
  | '?' :: rest =>
      let query := rest.takeWhile isQueryChar
      match rest.drop query.length with
      | [] => some ⟨path', String.ofList query⟩
      | '#' :: _ => some ⟨path', String.ofList query⟩
      | _ => none
  | _ => none

def longestScheme : Nat := 64

def isSchemeChar (c : Char) : Bool := c.isAlphanum || c == '+' || c == '-' || c == '.'

/-- The characters behind a scheme and two slashes, if there is a scheme; none for a scheme that
is too long. -/
def afterScheme? (cs : List Char) : Option (Option (List Char)) :=
  let scheme := cs.takeWhile isSchemeChar
  match cs.drop scheme.length with
  | ':' :: '/' :: '/' :: rest =>
      if cs.length ≤ 3 then some none
      else if longestScheme < scheme.length then none
      else some (some rest)
  | _ => some none

def isAuthorityChar (c : Char) : Bool :=
  c.isAlphanum || "!$&'()*+,-.:;=@[]_%~".toList.contains c

def endsAuthority (c : Char) : Bool := c == '/' || c == '?' || c == '#'

structure Authority where
  /-- Colons behind the user and outside of brackets. -/
  colons : Nat
  opened : Bool
  closed : Bool
  /-- Whether a percent sign stands behind the user and outside of brackets. -/
  percent : Bool

def mostColons : Nat := 8

def Authority.push? (a : Authority) (c : Char) : Option Authority :=
  if c = ':' then
    if mostColons ≤ a.colons then none else some { a with colons := a.colons + 1 }
  else if c = '[' then
    if a.percent || a.opened then none else some { a with opened := true }
  else if c = ']' then
    if !a.opened || a.closed then none
    else some { a with closed := true, colons := 0, percent := false }
  else if c = '@' then some { a with colons := 0, percent := false }
  else if c = '%' then some { a with percent := true }
  else some a

/-- Whether an authority is well formed: at most one port, brackets in pairs, and a host behind the
user. -/
def isAuthority (cs : List Char) : Bool :=
  cs.all isAuthorityChar && cs.getLast? != some '@' &&
    match cs.foldlM Authority.push? ⟨0, false, false, false⟩ with
    | some a => a.opened == a.closed && a.colons ≤ 1 && !a.percent
    | none => false

/-- Reads an address in full, or an authority alone, which has no path. -/
def address? (cs : List Char) : Option Target := do
  match ← afterScheme? cs with
  | some rest =>
      let authority := rest.takeWhile (!endsAuthority ·)
      if authority.isEmpty || !isAuthority authority then none
      else place? (rest.drop authority.length)
  | none => if isAuthority cs then some ⟨"", ""⟩ else none

def ofString (s : String) : Except TargetDefect Target :=
  let found := match s.toList with
    | [] => none
    | ['*'] => some ⟨"*", ""⟩
    | '/' :: rest => place? ('/' :: rest)
    | cs => address? cs
  if !s.toList.all isVisible then .error .malformed
  else if longest < s.utf8ByteSize then .error .tooLong
  else
    match found with
    | some target => .ok target
    | none => .error .malformed

end Target

end HeaderRelay.Server
