import HeaderRelay.Url.Address
import HeaderRelay.Url.Domain

set_option autoImplicit false

namespace HeaderRelay

inductive Url.Host
  | domain (name : String)
  | ipv4 (address : Nat)
  | ipv6 (groups : List Nat)
  deriving DecidableEq, Repr

structure Url where
  scheme : String
  host : Option Url.Host
  port : Option Nat
  /-- What follows. -/
  rest : String
  deriving DecidableEq, Repr

namespace Url

/-- How a scheme treats what follows it. -/
inductive Treatment
  /-- As a file, perhaps on a host. -/
  | file
  /-- As a place on a host. -/
  | special
  /-- In its own way. -/
  | generic
  deriving DecidableEq, Repr

def Treatment.ofScheme (scheme : String) : Treatment :=
  if scheme = "file" then .file
  else if ["http", "https", "ws", "wss", "ftp"].contains scheme then .special
  else .generic

/-- Whether a character is a slash under a treatment. -/
def Treatment.isSlash (t : Treatment) (c : Char) : Bool :=
  c == '/' || (c == '\\' && t != .generic)

def Treatment.isEnd (t : Treatment) (c : Char) : Bool := t.isSlash c || c == '?' || c == '#'

/-- A text without line breaks and tabs, and without controls and spaces around it. -/
def clean (cs : List Char) : List Char :=
  let isEdge := fun (c : Char) => decide (c.toNat ≤ 0x20)
  let trimmed := ((cs.dropWhile isEdge).reverse.dropWhile isEdge).reverse
  trimmed.filter fun c => !(c == '\t' || c == '\n' || c == '\r')

def isSchemeChar (c : Char) : Bool := c.isAlphanum || c == '+' || c == '-' || c == '.'

/-- The scheme in small letters, and what follows its colon. -/
def scheme? (cs : List Char) : Option (String × List Char) :=
  match cs.head?, cs.dropWhile isSchemeChar with
  | some c, ':' :: rest =>
      if c.isAlpha then
        some (String.ofList ((cs.takeWhile isSchemeChar).map Char.toLower), rest)
      else none
  | _, _ => none

/-- What stands before the last at sign, if there is one, and what follows. -/
def splitUser (cs : List Char) : Option (List Char) × List Char :=
  match cs.reverse.dropWhile (· != '@') with
  | [] => (none, cs)
  | _ :: user => (some user.reverse, cs.drop (user.length + 1))

/-- Whether a user is named: there is more than a colon before the at sign. -/
def namesUser (user : Option (List Char)) : Bool :=
  match user with
  | none => false
  | some [] => false
  | some [':'] => false
  | some _ => true

/-- The host before the first colon that is outside of brackets, and what follows. -/
def splitHost : Bool → List Char → List Char × List Char
  | _, [] => ([], [])
  | inside, c :: cs =>
      if c = ':' ∧ inside = false then ([], c :: cs)
      else
        let inside := if c = '[' then true else if c = ']' then false else inside
        let (host, rest) := splitHost inside cs
        (c :: host, rest)

def bracketed? (cs : List Char) : Option Host :=
  match cs with
  | '[' :: rest =>
      if rest.getLast? = some ']' then (ipv6? rest.dropLast).map .ipv6 else none
  | _ => none

def specialHost? (cs : List Char) : Option Host :=
  if cs.head? = some '[' then bracketed? cs
  else do
    let domain ← domain? cs
    if domain.isEmpty then none
    else if endsInNumber domain then (ipv4? domain).map .ipv4
    else some (.domain (String.ofList domain))

/-- Characters that may not stand in the host of any scheme. -/
def isForbiddenAnywhere (c : Char) : Bool := "\x00\t\n\r #/:<>?@[\\]^|".toList.contains c

/-- The host of a scheme that has its own way; it may be empty. -/
def genericHost? (cs : List Char) : Option (Option Host) :=
  if cs.head? = some '[' then (bracketed? cs).map some
  else if cs.any isForbiddenAnywhere then none
  else if cs.isEmpty then some none
  else some (some (.domain (String.ofList cs)))

def greatestPort : Nat := 65535

/-- The port behind a host; a colon alone names none. -/
def port? (cs : List Char) : Option (Option Nat) :=
  match cs with
  | [] => some none
  | [':'] => some none
  | ':' :: ds => ((Decimal.value? ds).filter (· ≤ greatestPort)).map some
  | _ => none

/-- Whether a port ends here; a backslash ends one under any treatment. -/
def isPortEnd (c : Char) : Bool := c == '\\'

/-- The host and the port of an authority. A host may only be missing where no user and no port
is named. -/
def authority? (t : Treatment) (cs : List Char) : Option (Option Host × Option Nat) := do
  let (user, place) := splitUser cs
  let (name, after) := splitHost false place
  let port ← port? (after.takeWhile (!isPortEnd ·))
  if t = .special then
    let host ← specialHost? name
    return (some host, port)
  else
    match ← genericHost? name with
    | some host => return (some host, port)
    | none => if namesUser user || !after.isEmpty then none else return (none, none)

/-- A URL with an authority. One that is only an at sign must not be followed by anything. -/
def withAuthority? (t : Treatment) (scheme : String) (cs : List Char) : Option Url := do
  let authority := cs.takeWhile (!t.isEnd ·)
  let rest := cs.drop authority.length
  if authority = ['@'] ∧ rest ≠ [] then none
  else
    let (host, port) ← authority? t authority
    return ⟨scheme, host, port, String.ofList rest⟩

def isDrive (cs : List Char) : Bool :=
  match cs with
  | [c, d] => c.isAlpha && (d == ':' || d == '|')
  | _ => false

/-- A URL of a file: behind two slashes a host may be named. -/
def ofFile? (cs : List Char) : Option Url :=
  let isSlash := Treatment.file.isSlash
  match cs with
  | a :: b :: rest =>
      if isSlash a && isSlash b then
        let name := rest.takeWhile (!Treatment.file.isEnd ·)
        if name.isEmpty || isDrive name then some ⟨"file", none, none, String.ofList rest⟩
        else (specialHost? name).map fun host =>
          ⟨"file", some host, none, String.ofList (rest.drop name.length)⟩
      else some ⟨"file", none, none, String.ofList cs⟩
  | _ => some ⟨"file", none, none, String.ofList cs⟩

/-- A URL of a scheme that has its own way. -/
def ofGeneric? (scheme : String) (cs : List Char) : Option Url :=
  match cs with
  | '/' :: '/' :: rest => withAuthority? .generic scheme rest
  | _ => some ⟨scheme, none, none, String.ofList cs⟩

def ofString? (s : String) : Option Url := do
  let (scheme, cs) ← scheme? (clean s.toList)
  match Treatment.ofScheme scheme with
  | .file => ofFile? cs
  | .special =>
      withAuthority? .special scheme (cs.dropWhile Treatment.special.isSlash)
  | .generic => ofGeneric? scheme cs

end Url

end HeaderRelay
