import HeaderRelay.Text.Percent
import HeaderRelay.Url.Basic

set_option autoImplicit false

namespace HeaderRelay.Url

/-- Whether a byte is a control, a blank or not plain. -/
def isBare (b : UInt8) : Bool := b ≤ 0x20 || 0x7F ≤ b

/-- Whether a byte of a path stands behind a percent sign. -/
def needsSignInPath (b : UInt8) : Bool :=
  isBare b || "\"#<>?\x60\x7b\x7d".toList.contains (Char.ofNat b.toNat)

/-- Whether a byte of a query stands behind a percent sign. -/
def needsSignInQuery (b : UInt8) : Bool :=
  isBare b || "\"#<>'".toList.contains (Char.ofNat b.toNat)

/-- The dots that a step of a path consists of, spelled in any way; none if it has anything else. -/
def dots? : List Char → Option Nat
  | [] => some 0
  | '.' :: rest => (dots? rest).map (· + 1)
  | '%' :: '2' :: 'e' :: rest => (dots? rest).map (· + 1)
  | '%' :: '2' :: 'E' :: rest => (dots? rest).map (· + 1)
  | _ => none

/-- Takes the steps of a path behind those taken, the latest first. -/
def walk : List (List Char) → List (List Char) → List (List Char)
  | taken, [] => taken
  | taken, step :: rest =>
      let atEnd := fun (taken : List (List Char)) => if rest.isEmpty then [] :: taken else taken
      match dots? step with
      | some 1 => walk (atEnd taken) rest
      | some 2 => walk (atEnd taken.tail) rest
      | _ => walk (step :: taken) rest

/-- A path without steps that stay or lead up. -/
def straight (path : List Char) : List Char :=
  let slashes := path.map fun c => if c = '\\' then '/' else c
  let steps := (slashes.drop 1).splitOn '/'
  (walk [] steps).reverse.flatMap ('/' :: ·)

/-- The path and the query of what follows a host. -/
def target (u : Url) : String :=
  let sent := u.rest.toList.takeWhile (· != '#')
  let path := sent.takeWhile (· != '?')
  let query := sent.drop path.length
  String.ofList (Percent.encode needsSignInPath (Utf8.encode (String.ofList (straight path))) ++
    Percent.encode needsSignInQuery (Utf8.encode (String.ofList query)))

end HeaderRelay.Url
