import HeaderRelay.Json.Printer
import HeaderRelay.Proof.Service
import HeaderRelay.Relay.Metrics
import HeaderRelay.Server.MediaType
import HeaderRelay.Server.Payload
import HeaderRelay.Server.Query
import HeaderRelay.Server.Target
import HeaderRelay.Wire.Proof

set_option autoImplicit false

namespace HeaderRelay.Server

structure Request where
  method : String
  target : String
  contentType : Option String
  body : Bytes

inductive Content
  | empty
  | text (s : String)
  | json (v : Json)
  | lines (ls : List String)

structure Response where
  status : Nat
  contentType : Option String
  /-- The methods that are allowed instead. -/
  allow : Option String
  content : Content

namespace Response

/-- A response with a status only. -/
def bare (status : Nat) : Response := ⟨status, none, none, .empty⟩

def text (status : Nat) (s : String) : Response :=
  ⟨status, some "text/plain; charset=utf-8", none, .text s⟩

def json (status : Nat) (v : Json) : Response := ⟨status, some "application/json", none, .json v⟩

/-- The response to a request that ended in a fault. -/
def ofFault (fault : Fault) : Response := text 500 fault.message

end Response

inductive Route
  | health
  | metrics
  | generateProof
  | proofStatus
  deriving DecidableEq, Repr

namespace Route

def ofPath? (path : String) : Option Route :=
  if path = "/" ∨ path = "/health" then some .health
  else if path = "/metrics" then some .metrics
  else if path = "/generate-proof" then some .generateProof
  else if path = "/proof-status" then some .proofStatus
  else none

def methods : Route → List String
  | .generateProof => ["POST"]
  | _ => ["GET", "HEAD"]

end Route

/-- Handles a request of a kind that is counted. -/
def counted {α : Type} (kind : RequestKind) (action : Action α) : Relay (Except Fault α) := do
  let _ ← Program.query (I := relaying) (.note (.requestBegan kind))
  let outcome ← action.run
  let _ ← Program.query (I := relaying) (.note (.requestEnded kind outcome.isOk))
  return outcome

def generateProof (rules : Epoch.Rules) (request : Request) : Relay Response :=
  if !(request.contentType.any MediaType.isJson) then
    return .text 415 "Expected request with `Content-Type: application/json`"
  else
    match Payload.hash request.body with
    | .error .malformed => return .text 400 "Failed to parse the request body as JSON: *"
    | .error .misshapen =>
        return .text 422 "Failed to deserialize the JSON body into the target type: *"
    | .ok hash => do
        match ← counted .generateProof (Proof.request rules hash) with
        | .ok record => return .json 200 record.toJson
        | .error fault => return .ofFault fault

/-- Answers a request for the status of a proof. -/
def proofStatus (query : String) : Relay Response :=
  match Query.value? query "hash" with
  | none => return .text 400 "Failed to deserialize query string: *"
  | some hash => do
      match ← counted .proofStatus (Proof.status hash) with
      | .ok (some record) => return .json 200 record.toJson
      | .ok none =>
          return .json 404 (.record [("error", .text ("No proof record for " ++ hash))])
      | .error fault => return .ofFault fault

/-- Answers a request for a route; `lines` are the metrics at this time. -/
def serve (rules : Epoch.Rules) (lines : List String) (request : Request) (query : String) :
    Route → Relay Response
  | .health => return .bare 200
  | .metrics => return ⟨200, some "text/plain; version=0.0.4", none, .lines lines⟩
  | .generateProof => generateProof rules request
  | .proofStatus => proofStatus query

/-- A response as `HEAD` shows it. -/
def withoutContent (method : String) (response : Response) : Response :=
  if method = "HEAD" then { response with content := .empty } else response

/-- Whether a request can be read apart from its target. -/
def isReadable (request : Request) : Bool :=
  !request.method.isEmpty && request.method.toList.all MediaType.isToken &&
    request.contentType.all fun value =>
      value.toList.all fun c => c == '\t' || (0x20 ≤ c.toNat && c.toNat != 0x7F)

def respondTo (rules : Epoch.Rules) (lines : List String) (request : Request) (target : Target) :
    Relay Response :=
  match Route.ofPath? target.path with
  | none => return .bare 404
  | some route =>
      if route.methods.contains request.method then
        return withoutContent request.method (← serve rules lines request target.query route)
      else
        return { Response.bare 405 with allow := some (",".intercalate route.methods) }

def respond (rules : Epoch.Rules) (lines : List String) (request : Request) : Relay Response :=
  if !isReadable request then return .bare 400
  else
    match Target.ofString request.target with
    | .error defect => return .bare defect.status
    | .ok target => respondTo rules lines request target

end HeaderRelay.Server
