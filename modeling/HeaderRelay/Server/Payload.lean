import HeaderRelay.Json.Numeral
import HeaderRelay.Json.Reader

/-
The body of a proof request: a record with the one field `hash`. It is read from the front, and
the first thing that is wrong decides whether the body is malformed or of the wrong shape; what
follows the record is not looked at.
-/

set_option autoImplicit false

namespace HeaderRelay.Server

inductive Rejection
  /-- It is not JSON. -/
  | malformed
  /-- It is JSON of another shape. -/
  | misshapen
  deriving DecidableEq, Repr

namespace Payload

/-- What is wrong with a value that stands where another kind is expected: a value that can be
read is misshapen. -/
def mismatch (gs : List Glyph) : Rejection :=
  match gs with
  | some '[' :: _ => .misshapen
  | some '\x7b' :: _ => .misshapen
  | some '"' :: rest =>
      match Json.stringBody rest with
      | some (some _, _) => .misshapen
      | _ => .malformed
  | _ =>
      match Json.scalar gs with
      | some (.number l, _) => if l.numeral?.isSome then .misshapen else .malformed
      | some _ => .misshapen
      | none => .malformed

def string (gs : List Glyph) : Except Rejection (String × List Glyph) :=
  match Json.skipSpace gs with
  | some '"' :: rest =>
      match Json.stringBody rest with
      | some (some s, after) => .ok (s, after)
      | _ => .error .malformed
  | gs => .error (mismatch gs)

/-- Reads the colon after a name. -/
def colon (gs : List Glyph) : Except Rejection (List Glyph) :=
  match Json.skipSpace gs with
  | some ':' :: rest => .ok rest
  | _ => .error .malformed

def skip (gs : List Glyph) : Except Rejection (List Glyph) :=
  match Json.read gs with
  | some (_, after) => .ok after
  | none => .error .malformed

/-- Reads a name and its value; `hash` is the value of the field so far. -/
def member (hash : Option String) (gs : List Glyph) :
    Except Rejection (Option String × List Glyph) :=
  match gs with
  | some '"' :: rest =>
      match Json.stringBody rest with
      | some (some name, rest) =>
          if name = "hash" then
            if hash.isSome then .error .misshapen
            else do
              let (s, after) ← string (← colon rest)
              return (some s, after)
          else do
            let after ← skip (← colon rest)
            return (hash, after)
      | _ => .error .malformed
  | _ => .error .malformed

/-- Reads one or more members up to the closing brace. -/
def members : Nat → Option String → List Glyph → Except Rejection String
  | 0, _, _ => .error .malformed
  | fuel + 1, hash, gs => do
      let (hash, rest) ← member hash gs
      match Json.skipSpace rest with
      | some '\x7d' :: _ =>
          match hash with
          | some s => .ok s
          | none => .error .misshapen
      | some ',' :: rest => members fuel hash (Json.skipSpace rest)
      | _ => .error .malformed

def hash (body : Bytes) : Except Rejection String :=
  let gs := Utf8.glyphs body
  match Json.skipSpace gs with
  | some '\x7b' :: rest =>
      match Json.skipSpace rest with
      | some '\x7d' :: _ => .error .misshapen
      | rest => members (gs.length + 1) none rest
  | some '[' :: rest =>
      match Json.skipSpace rest with
      | [] => .error .malformed
      | some ']' :: _ => .error .misshapen
      | rest => do
          let (s, after) ← string rest
          match Json.skipSpace after with
          | some ']' :: _ => .ok s
          | _ => .error .malformed
  | gs => .error (mismatch gs)

end Payload

end HeaderRelay.Server
