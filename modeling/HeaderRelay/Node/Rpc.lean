import HeaderRelay.Http.Reply
import HeaderRelay.Json.Printer
import HeaderRelay.Relay.Action
import HeaderRelay.Wire.Chain

set_option autoImplicit false

namespace HeaderRelay.Node

inductive Query
  | block (id : BlockId)
  | latest
  deriving DecidableEq, Repr

def Query.request (q : Query) : Json :=
  let params := match q with
    | .block id => ("block_id", id.toJson)
    | .latest => ("finality", .text "optimistic")
  .record [("jsonrpc", .text "2.0"), ("id", .text "dontcare"), ("method", .text "block"),
    ("params", .record [params])]

structure NodeError where
  name : Option String
  message : Option String
  cause : Option String
  deriving DecidableEq, Repr

namespace NodeError

def causeOfJson? (v : Json) : Option String := do
  let form ← v.recordOf? ["name"]
  (form.field 0 "name").required Json.text?

def ofJson? (v : Json) : Option NodeError := do
  let form ← v.recordOf? ["name", "message", "cause"]
  let name ← (form.field 0 "name").defaulted none (Json.optional? Json.text?)
  let message ← (form.field 1 "message").defaulted none (Json.optional? Json.text?)
  let cause ← (form.field 2 "cause").defaulted none (Json.optional? causeOfJson?)
  return ⟨name, message, cause⟩

end NodeError

/-- The answer of a node: a header, an error, or both. -/
structure Envelope where
  result : Option Block
  error : Option NodeError
  deriving DecidableEq, Repr

namespace Envelope

def headerOfJson? (v : Json) : Option Block := do
  let form ← v.recordOf? ["header"]
  (form.field 0 "header").required Block.ofJson?

def ofJson? (v : Json) : Option Envelope := do
  let form ← v.recordOf? ["result", "error"]
  let result ← (form.field 0 "result").optional (Json.optional? headerOfJson?)
  let error ← (form.field 1 "error").optional (Json.optional? NodeError.ofJson?)
  return ⟨result, error⟩

end Envelope

/-- What an error stands for: one of the two recognized causes, or a fault. -/
def NodeError.classify (e : NodeError) : Except Fault Sighting :=
  if e.cause = some Absence.unknown.word then .ok (.absent .unknown)
  else if e.cause = some Absence.notSynced.word then .ok (.absent .notSynced)
  else
    .error ⟨.unexpected, "RPC error " ++ e.name.getD "" ++ " (cause " ++ e.cause.getD "none" ++
      "): " ++ e.message.getD ""⟩

/-- What an answer stands for; an error wins over a header. -/
def Envelope.classify (e : Envelope) : Except Fault Sighting :=
  match e.error, e.result with
  | some error, _ => error.classify
  | none, some block => .ok (.found block)
  | none, none => .error ⟨.parse, "Block response has neither result nor error"⟩

def sightingOfText (body : String) : Except Fault Sighting :=
  match (Json.ofString? body).bind Envelope.ofJson? with
  | some envelope => envelope.classify
  | none => .error ⟨.parse, "Invalid block response: *"⟩

def sighting (node : Endpoint) : Http.Reply → Except Fault Sighting
  | .lost => .error ⟨.internal, node.word ++ " node request failed: *"⟩
  | .broken _ => .error ⟨.internal, node.word ++ " node body read failed: *"⟩
  | .complete status bytes =>
      let body := Http.bodyText (if Http.isBodiless status then [] else bytes)
      match sightingOfText body with
      | .ok s => .ok s
      | .error fault =>
          if Http.isSuccess status then .error fault
          else
            .error ⟨.internal, node.word ++ " node HTTP error " ++ Http.statusText status ++
              ": " ++ body⟩

/-- An absence as it is shown in a fault. -/
def absenceText : Absence → String
  | .unknown => "UnknownBlock"
  | .notSynced => "NotSyncedYet"

def headOf (node : Endpoint) : Except Fault Sighting → Except Fault Nat
  | .ok (.found block) => .ok block.height
  | .ok (.absent why) =>
      .error ⟨.unexpected, node.word ++ " node could not report its head: " ++ absenceText why⟩
  | .error fault => .error fault

/-- What is noted of a query and its outcome. -/
def notes (node : Endpoint) : Except Fault Sighting → List Note
  | .ok (.absent why) => [.nodeAsked node, .nodeLacks node why]
  | _ => [.nodeAsked node]

end HeaderRelay.Node
