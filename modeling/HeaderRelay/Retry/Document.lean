import HeaderRelay.Document.Shape
import HeaderRelay.Document.View
import HeaderRelay.Json.Printer
import HeaderRelay.Retry.Policy

set_option autoImplicit false

namespace HeaderRelay.Retry

namespace Scope

def toJson (s : Scope) : Json := .text s.word

def read? {α : Type} [Document α] (a : α) : Option Scope := Document.choice? ofWord? a

end Scope

namespace Schedule

def fixedFields : List String := ["delay-ms"]

def exponentialFields : List String := ["initial-ms", "multiplier", "max-ms"]

def toJson : Schedule → Json
  | .fixed delay => .record [("kind", .text "fixed"), ("delay-ms", .nat delay)]
  | .exponential initial multiplier max =>
      .record [("kind", .text "exponential"), ("initial-ms", .nat initial),
        ("multiplier", .real multiplier), ("max-ms", .nat max)]

def ofKind? (kind : String) (body : Content) : Option Schedule :=
  if kind = "fixed" then do
    let form ← body.recordOf? fixedFields
    let delay ← (form.field 0 "delay-ms").required Content.natural?
    return .fixed delay
  else if kind = "exponential" then do
    let form ← body.recordOf? exponentialFields
    let initial ← (form.field 0 "initial-ms").required Content.natural?
    let multiplier ← (form.field 1 "multiplier").required Content.real?
    let max ← (form.field 2 "max-ms").required Content.natural?
    return .exponential initial multiplier max
  else none

/-- The member that tells the kind of a schedule. -/
def kindName : String := "kind"

def read? {α : Type} [Document α] (a : α) : Option Schedule :=
  (Document.variant? kindName a).bind fun (kind, body) => ofKind? kind body

end Schedule

namespace Policy

def fields : List String := ["retry-on", "backoff", "max-attempts"]

def shape : Shape :=
  .record [("retry-on", .leaf), ("backoff", .variant Schedule.kindName), ("max-attempts", .leaf)]

/-- The greatest number of attempts that can be asked for. -/
def mostAttempts : Nat := Nat.pow 2 32 - 1

def toJson (p : Policy) : Json :=
  .record [("retry-on", p.scope.toJson), ("backoff", p.schedule.toJson),
    ("max-attempts", .orNull .nat p.maxAttempts)]

def read? {α : Type} [Document α] (a : α) : Option Policy := do
  let form ← Document.recordOf? a fields
  let scope ← (form.field 0 "retry-on").defaulted .all Scope.read?
  let schedule ← (form.field 1 "backoff").defaulted .standard Schedule.read?
  let maxAttempts ← (form.field 2 "max-attempts").defaulted none
    (Document.optional? (Document.naturalUpTo? mostAttempts))
  return ⟨scope, schedule, maxAttempts⟩

end Policy

end HeaderRelay.Retry
