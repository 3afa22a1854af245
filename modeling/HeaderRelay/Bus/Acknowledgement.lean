import HeaderRelay.Json.View

set_option autoImplicit false

namespace HeaderRelay.Bus

structure Acknowledgement where
  stream : String
  sequence : Nat
  domain : String
  duplicate : Bool
  deriving DecidableEq, Repr

namespace Acknowledgement

def bool? : Json → Option Bool
  | .bool b => some b
  | _ => none

/-- The code of an error, by which it is recognized. -/
def errorCodeOfJson? (v : Json) : Option Nat := do
  let form ← v.recordOf? ["code", "err_code", "description"]
  let code ← (form.field 0 "code").required Json.natural?
  let _ ← (form.field 1 "err_code").required Json.natural?
  let _ ← (form.field 2 "description").optional (Json.optional? Json.text?)
  return code

def errorOfJson? : Json → Option Nat
  | .object members => do
      let form ← (Json.object members).recordOf? ["error"]
      (form.field 0 "error").required errorCodeOfJson?
  | _ => none

def ofJson? (v : Json) : Option Acknowledgement := do
  let form ← v.recordOf? ["stream", "seq", "domain", "duplicate"]
  let stream ← (form.field 0 "stream").required Json.text?
  let sequence ← (form.field 1 "seq").required Json.natural?
  let domain ← (form.field 2 "domain").defaulted "" Json.text?
  let duplicate ← (form.field 3 "duplicate").defaulted false bool?
  return ⟨stream, sequence, domain, duplicate⟩

/-- The acknowledgement in the body of a reply; one that reports an error is none. -/
def ofBody? (body : Bytes) : Option Acknowledgement := do
  let v ← (Json.ofBytes? body).bind Json.whole?
  if (errorOfJson? v).isSome then none else ofJson? v

end Acknowledgement

end HeaderRelay.Bus
