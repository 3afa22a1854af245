import HeaderRelay.Proofs.Caution
import HeaderRelay.Server.Respond

set_option autoImplicit false

namespace HeaderRelay

def Call.handles : Call → Bool
  | .note (.requestBegan _) | .note (.requestEnded _ _) => false
  | _ => true

theorem Call.handles_of_searches (call : Call) (searches : call.searches = true) :
    call.handles = true := by
  cases call with
  | note n => cases n <;> first | rfl | cases searches
  | _ => rfl

theorem Call.eq_of_note? {call : Call} {note : Note} (noted : call.note? = some note) :
    call = .note note := by
  cases call <;> cases noted
  rfl

theorem count_of_handles {trace : Trace relaying} {note : Note}
    (handles : ∀ event ∈ trace, event.call.handles = true)
    (ofRequest : (Call.note note).handles = false) : Metrics.count trace.notes note = 0 := by
  refine List.countP_eq_zero.mpr fun other member => ?_
  obtain ⟨event, asked, noted⟩ := List.mem_filterMap.mp member
  have quiet := handles event asked
  rw [Call.eq_of_note? noted] at quiet
  intro same
  rw [eq_of_beq same, ofRequest] at quiet
  cases quiet

namespace Proof

variable (rules : Epoch.Rules)

theorem dispatch_handles (node : Endpoint) (block : Block) :
    (dispatch rules node block).run.Asks (I := relaying) (·.handles) := by
  refine Action.asks_bind ((anchors_searches _ _ _).mono Call.handles_of_searches) fun anchors => ?_
  refine Action.asks_bind trivial fun task => ?_
  refine Action.asks_bind ⟨rfl, fun _ => trivial⟩ fun now => ?_
  refine Action.asks_bind ⟨rfl, fun _ => trivial⟩ fun _ => ?_
  refine Action.asks_bind (Action.asks_outcome ⟨rfl, fun _ => trivial⟩) fun outcome => ?_
  rcases outcome with fault | _
  · exact Action.asks_bind ⟨rfl, fun _ => trivial⟩ fun _ => trivial
  · trivial

theorem request_handles (hash : String) :
    (request rules hash).run.Asks (I := relaying) (·.handles) := by
  unfold request
  dsimp only
  split
  · trivial
  · refine Action.asks_bind ((Node.resolve_searches _ _ _).mono Call.handles_of_searches)
      fun node => ?_
    refine Action.asks_bind (Node.require_asks rfl) fun block => ?_
    refine Action.asks_bind ⟨rfl, fun _ => trivial⟩ fun held => ?_
    split
    · refine Action.asks_bind ⟨rfl, fun _ => trivial⟩ fun now => ?_
      exact Action.asks_bind ⟨rfl, fun _ => trivial⟩ fun _ => trivial
    · exact dispatch_handles rules node block

end Proof

namespace Server

/-- What a request that is let through asks for. -/
inductive Errand
  | generateProof (hash : String)
  | proofStatus (hash : String)
  deriving DecidableEq, Repr

namespace Errand

/-- The kind under which a request is counted. -/
def kind : Errand → RequestKind
  | generateProof _ => .generateProof
  | proofStatus _ => .proofStatus

/-- What the handling comes to if it ends well. -/
def Result : Errand → Type
  | generateProof _ => ProofRecord
  | proofStatus _ => Option ProofRecord

def action (rules : Epoch.Rules) : (errand : Errand) → Action errand.Result
  | generateProof hash => Proof.request rules hash
  | proofStatus hash => Proof.status hash

/-- The response to a status query for a hash without a record. -/
def unknown (hash : String) : Response :=
  .json 404 (.record [("error", .text ("No proof record for " ++ hash))])

def response : (errand : Errand) → Except Fault errand.Result → Response
  | _, .error fault => .ofFault fault
  | generateProof _, .ok record => .json 200 (ProofRecord.toJson record)
  | proofStatus hash, .ok found =>
      match (found : Option ProofRecord) with
      | some record => .json 200 record.toJson
      | none => unknown hash

theorem action_handles (rules : Epoch.Rules) (errand : Errand) :
    (errand.action rules).run.Asks (I := relaying) (·.handles) := by
  cases errand with
  | generateProof hash => exact Proof.request_handles rules hash
  | proofStatus hash => exact ⟨rfl, fun _ => trivial⟩

theorem status_response (errand : Errand) (outcome : Except Fault errand.Result) :
    ((errand.response outcome).status != 500) = outcome.isOk := by
  cases errand with
  | generateProof hash => cases outcome <;> rfl
  | proofStatus hash => rcases outcome with fault | (_ | record) <;> rfl

/-- The handling with what is counted of it, up to the response. -/
def program (rules : Epoch.Rules) (errand : Errand) : Relay Response :=
  (counted errand.kind (errand.action rules)).bind fun outcome => .done (errand.response outcome)

end Errand

namespace Request

/-- What a request for a route asks for, if it is let through. -/
def errandAt? (request : Request) (query : String) : Route → Option Errand
  | .health | .metrics => none
  | .generateProof =>
      if request.contentType.any MediaType.isJson then
        (Payload.hash request.body).toOption.map .generateProof
      else none
  | .proofStatus => (Query.value? query "hash").map .proofStatus

/-- What a request for a target asks for, if it is let through. -/
def errandTo? (request : Request) (target : Target) : Option Errand :=
  (Route.ofPath? target.path).bind fun route =>
    if route.methods.contains request.method then request.errandAt? target.query route else none

/-- What a request asks for, if it is let through. -/
def errand? (request : Request) : Option Errand :=
  if isReadable request then (Target.ofString request.target).toOption.bind request.errandTo?
  else none

/-- The kind under which a request is counted, if it is let through. -/
def kind? (request : Request) : Option RequestKind := request.errand?.map Errand.kind

end Request

variable {rules : Epoch.Rules} {lines : List String} {request : Request} {query : String}

theorem ofPath?_eq_generateProof_iff {path : String} :
    Route.ofPath? path = some .generateProof ↔ path = "/generate-proof" := by
  unfold Route.ofPath?
  grind

theorem ofPath?_eq_proofStatus_iff {path : String} :
    Route.ofPath? path = some .proofStatus ↔ path = "/proof-status" := by
  unfold Route.ofPath?
  grind

def Errand.AskedAt (request : Request) (target : Target) : Errand → Prop
  | .generateProof hash => target.path = "/generate-proof" ∧ request.method = "POST" ∧
      request.contentType.any MediaType.isJson = true ∧ Payload.hash request.body = .ok hash
  | .proofStatus hash => target.path = "/proof-status" ∧
      (request.method = "GET" ∨ request.method = "HEAD") ∧
      Query.value? target.query "hash" = some hash

theorem errandTo?_eq_some_iff {target : Target} {errand : Errand} :
    request.errandTo? target = some errand ↔ errand.AskedAt request target := by
  unfold Request.errandTo?
  rw [Option.bind_eq_some_iff]
  constructor
  · rintro ⟨route, path, admitted⟩
    split at admitted
    · rename_i allowed
      cases route with
      | health | metrics => cases admitted
      | generateProof =>
        rw [Request.errandAt?] at admitted
        split at admitted
        · rename_i json
          obtain ⟨hash, body, rfl⟩ := Option.map_eq_some_iff.mp admitted
          exact ⟨ofPath?_eq_generateProof_iff.mp path, by simpa [Route.methods] using allowed, json,
            toOption_eq_some_iff.mp body⟩
        · cases admitted
      | proofStatus =>
        obtain ⟨hash, value, rfl⟩ := Option.map_eq_some_iff.mp admitted
        exact ⟨ofPath?_eq_proofStatus_iff.mp path, by simpa [Route.methods] using allowed, value⟩
    · cases admitted
  · intro asked
    cases errand with
    | generateProof hash =>
      obtain ⟨path, method, json, body⟩ := asked
      refine ⟨.generateProof, ofPath?_eq_generateProof_iff.mpr path, ?_⟩
      simp [Route.methods, Request.errandAt?, method, json, body, Except.toOption]
    | proofStatus hash =>
      obtain ⟨path, method, value⟩ := asked
      refine ⟨.proofStatus, ofPath?_eq_proofStatus_iff.mpr path, ?_⟩
      simp [Route.methods, Request.errandAt?, method, value]

/-- What requests are let through: any other is turned away. -/
theorem errand?_eq_some_iff {errand : Errand} :
    request.errand? = some errand ↔ isReadable request = true ∧
      ∃ target, Target.ofString request.target = .ok target ∧ errand.AskedAt request target := by
  unfold Request.errand?
  cases isReadable request with
  | false => simp
  | true =>
    cases Target.ofString request.target with
    | error defect => simp [Except.toOption]
    | ok target => simp [Except.toOption, errandTo?_eq_some_iff]

theorem generateProof_cases :
    (∃ errand, request.errandAt? query .generateProof = some errand ∧
      generateProof rules request = errand.program rules) ∨
    (request.errandAt? query .generateProof = none ∧
      ∃ response, generateProof rules request = .done response) := by
  unfold generateProof Request.errandAt?
  cases json : request.contentType.any MediaType.isJson with
  | false => exact .inr ⟨rfl, _, rfl⟩
  | true =>
    cases read : Payload.hash request.body with
    | error rejection => cases rejection <;> exact .inr ⟨rfl, _, rfl⟩
    | ok hash =>
      refine .inl ⟨.generateProof hash, rfl, ?_⟩
      refine congrArg (Program.bind _) (funext fun outcome => ?_)
      cases outcome <;> rfl

theorem proofStatus_cases :
    (∃ errand, request.errandAt? query .proofStatus = some errand ∧
      proofStatus query = errand.program rules) ∨
    (request.errandAt? query .proofStatus = none ∧
      ∃ response, proofStatus query = .done response) := by
  unfold proofStatus Request.errandAt?
  cases Query.value? query "hash" with
  | none => exact .inr ⟨rfl, _, rfl⟩
  | some hash =>
    refine .inl ⟨.proofStatus hash, rfl, ?_⟩
    refine congrArg (Program.bind _) (funext fun outcome => ?_)
    rcases outcome with fault | (_ | record) <;> rfl

/-- What a route serves is the handling, or a response at once. -/
theorem serve_cases (route : Route) :
    (∃ errand, request.errandAt? query route = some errand ∧
      serve rules lines request query route = errand.program rules) ∨
    (request.errandAt? query route = none ∧
      ∃ response, serve rules lines request query route = .done response) := by
  cases route with
  | health | metrics => exact .inr ⟨rfl, _, rfl⟩
  | generateProof => exact generateProof_cases
  | proofStatus => exact proofStatus_cases

theorem respondTo_cases {target : Target} :
    (∃ errand, request.errandTo? target = some errand ∧ respondTo rules lines request target =
      (errand.program rules).bind fun response => .done (withoutContent request.method response)) ∨
    (request.errandTo? target = none ∧
      ∃ response, respondTo rules lines request target = .done response) := by
  unfold respondTo Request.errandTo?
  cases Route.ofPath? target.path with
  | none => exact .inr ⟨rfl, _, rfl⟩
  | some route =>
    dsimp only [Option.bind_some]
    cases route.methods.contains request.method with
    | false => exact .inr ⟨rfl, _, rfl⟩
    | true =>
      rcases serve_cases route with ⟨errand, admitted, served⟩ | ⟨rejected, response, served⟩
      · rw [served]
        exact .inl ⟨errand, admitted, rfl⟩
      · rw [served]
        exact .inr ⟨rejected, _, rfl⟩

/-- A request is handled, or answered at once. -/
theorem respond_cases :
    (∃ errand, request.errand? = some errand ∧ respond rules lines request =
      (errand.program rules).bind fun response => .done (withoutContent request.method response)) ∨
    (request.errand? = none ∧ ∃ response, respond rules lines request = .done response) := by
  unfold respond Request.errand?
  cases isReadable request with
  | false => exact .inr ⟨rfl, _, rfl⟩
  | true =>
    cases Target.ofString request.target with
    | error defect => exact .inr ⟨rfl, _, rfl⟩
    | ok target => exact respondTo_cases

theorem respond_of_admitted {errand : Errand} (admitted : request.errand? = some errand) :
    respond rules lines request = (errand.program rules).bind fun response =>
      .done (withoutContent request.method response) := by
  rcases respond_cases with ⟨other, same, program⟩ | ⟨rejected, -⟩
  · cases admitted.symm.trans same
    exact program
  · cases admitted.symm.trans rejected

theorem respond_of_rejected (rejected : request.errand? = none) :
    ∃ response, respond rules lines request = .done response := by
  rcases respond_cases with ⟨other, same, -⟩ | ⟨-, answered⟩
  · cases rejected.symm.trans same
  · exact answered

/-- The handling stands between the two notes that are taken of it. -/
theorem program_bind (rules : Epoch.Rules) (errand : Errand) (shown : Response → Response) :
    ((errand.program rules).bind fun response => .done (shown response)) =
      .ask (.note (.requestBegan errand.kind)) fun _ =>
        (errand.action rules).run.bind fun outcome =>
          .ask (.note (.requestEnded errand.kind outcome.isOk)) fun _ =>
            .done (shown (errand.response outcome)) := by
  refine congrArg (Program.ask _) (funext fun _ => ?_)
  refine (Program.bind_bind _ _ _).trans ?_
  exact Program.bind_bind (errand.action rules).run _ _

theorem status_withoutContent (method : String) (response : Response) :
    (withoutContent method response).status = response.status := by
  unfold withoutContent
  split <;> rfl

/-- How far the handling of a request has come: what was asked for it, and the response if there
is one. -/
inductive Stage (rules : Epoch.Rules) (method : String) (errand : Errand) :
    Trace relaying → Option Response → Prop
  /-- The handling has not begun. -/
  | waiting : Stage rules method errand [] none
  | handling {trace : Trace relaying} (handles : ∀ event ∈ trace, event.call.handles = true) :
      Stage rules method errand (⟨.note (.requestBegan errand.kind), some ()⟩ :: trace) none
  | done {trace : Trace relaying} {outcome : Except Fault errand.Result}
      (handles : (errand.action rules).run.Runs trace (some outcome)) :
      Stage rules method errand (⟨.note (.requestBegan errand.kind), some ()⟩ :: trace ++
        [⟨.note (.requestEnded errand.kind outcome.isOk), some ()⟩])
        (some (withoutContent method (errand.response outcome)))

section Stages

variable {method : String} {errand : Errand} {trace : Trace relaying}

theorem stage_of_done {response : Response}
    (run : ((errand.program rules).bind fun response =>
      .done (withoutContent method response)).Runs trace (some response)) :
    Stage rules method errand trace (some response) := by
  rw [program_bind] at run
  cases run with
  | answered reply rest =>
    obtain ⟨ended, _, _, rfl, handles, counts⟩ := Program.runs_bind_ended rest
    cases counts with
    | answered reply rest =>
      obtain ⟨rfl, ⟨⟩⟩ := Program.runs_done rest
      exact .done handles

theorem stage_of_asking {call : Call}
    (run : ((errand.program rules).bind fun response =>
      .done (withoutContent method response)).Runs (trace ++ [⟨call, none⟩]) none) :
    Stage rules method errand trace none := by
  rw [program_bind] at run
  cases trace with
  | nil => exact .waiting
  | cons event trace =>
    obtain ⟨_, rfl, nothing | ⟨⟨⟩, rfl, rest⟩⟩ := Program.runs_ask run
    · cases (List.append_eq_nil_iff.mp nothing).2
    refine .handling ?_
    rcases Program.runs_bind rest with ⟨ended, before, _, split, handles, counts⟩ | ⟨-, handles⟩
    · -- The handling has ended, so that the note of it is what is asked now.
      cases counts with
      | broken =>
        obtain ⟨rfl, -⟩ := List.append_inj' split rfl
        exact (errand.action_handles rules).mem handles
      | answered reply rest => cases (Program.runs_done rest).2
    · exact (List.forall_mem_append.mp ((errand.action_handles rules).mem handles)).1

variable {response : Option Response}

/-- What is counted of a request at each stage, apart from what its handling asks. -/
theorem Stage.count_eq (stage : Stage rules method errand trace response) {note : Note}
    (ofRequest : (Call.note note).handles = false) :
    Metrics.count trace.notes note =
      (if .requestBegan errand.kind = note ∧ trace.isEmpty = false then 1 else 0) +
      (if ∃ shown ∈ response, .requestEnded errand.kind (shown.status != 500) = note then 1
        else 0) := by
  cases stage with
  | waiting => simp [Metrics.count]
  | handling handles =>
    have others := count_of_handles handles ofRequest
    simp only [Metrics.count] at others ⊢
    simp [Call.note?, List.countP_cons, others]
  | done handles =>
    have others := count_of_handles ((errand.action_handles rules).mem handles) ofRequest
    simp only [Metrics.count] at others ⊢
    simp [Call.note?, List.countP_cons, others, status_withoutContent, errand.status_response,
      Nat.add_comm]

end Stages

end Server

end HeaderRelay
