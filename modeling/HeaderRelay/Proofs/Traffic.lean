import HeaderRelay.Proofs.Admission
import Mathlib.Algebra.BigOperators.Group.Finset.Piecewise
import Mathlib.Data.Fintype.Basic

set_option autoImplicit false

namespace HeaderRelay

namespace Metrics

theorem gauge_eq (kind : RequestKind) (notes : List Note) :
    gauge kind notes =
      (received notes kind : Int) - answered notes kind - failed notes kind := by
  induction notes with
  | nil => rfl
  | cons note notes ih =>
    rw [gauge, ih]
    simp only [received, answered, failed, count, List.countP_cons]
    cases note with
    | requestBegan other =>
      by_cases same : other = kind
      · simp [change, same]
        omega
      · simp [change, same]
    | requestEnded other well =>
      by_cases same : other = kind <;> cases well <;> simp [change, same] <;> omega
    | _ => simp [change]

end Metrics

namespace Server

/-- Requests that are answered side by side. -/
structure Desk (α σ : Type) where
  /-- What is still to be done for each. -/
  program : α → Relay Response
  surroundings : σ
  /-- What was asked, in order, and for which request. -/
  log : List (α × Event relaying)

namespace Desk

variable {α σ : Type} [DecidableEq α] (answer : (call : Call) → σ → call.Answer × σ)

/-- Nothing was asked for any request; `lines` are the metrics that each would show. -/
def opened (rules : Epoch.Rules) (lines : α → List String) (requests : α → Request)
    (surroundings : σ) : Desk α σ :=
  ⟨fun actor => respond rules (lines actor) (requests actor), surroundings, []⟩

/-- Asks the next question for a request, unless there is a response. -/
def step (desk : Desk α σ) (actor : α) : Desk α σ :=
  match desk.program actor with
  | .done _ => desk
  | .ask call next =>
      let (reply, surroundings) := answer call desk.surroundings
      ⟨Function.update desk.program actor (next reply), surroundings,
        desk.log ++ [(actor, ⟨call, some reply⟩)]⟩

/-- Asks questions in the order of a schedule. -/
def after (desk : Desk α σ) (schedule : List α) : Desk α σ := schedule.foldl (step answer) desk

def asked (desk : Desk α σ) (actor : α) : Trace relaying :=
  (desk.log.filter (·.1 = actor)).map (·.2)

def notes (desk : Desk α σ) : List Note := Trace.notes (desk.log.map (·.2))

/-- The response to a request, if there is one. -/
def response? (desk : Desk α σ) (actor : α) : Option Response :=
  match desk.program actor with
  | .done response => some response
  | .ask _ _ => none

def begun (desk : Desk α σ) (actor : α) : Bool := !(desk.asked actor).isEmpty

/-- Whether the handling of a request has begun and there is no response yet. -/
def underWay (desk : Desk α σ) (actor : α) : Bool :=
  desk.begun actor && (desk.response? actor).isNone

/-- Whether there is a response to a request, and it reports a fault or not. -/
def ended (desk : Desk α σ) (well : Bool) (actor : α) : Bool :=
  (desk.response? actor).any fun response => (response.status != 500) == well

variable {answer} {desk : Desk α σ} {actor : α}

omit [DecidableEq α] in
theorem response?_eq_some_iff {response : Response} :
    desk.response? actor = some response ↔ desk.program actor = .done response := by
  unfold response?
  cases desk.program actor <;> simp

theorem step_of_done {response : Response} (done : desk.program actor = .done response) :
    desk.step answer actor = desk := by
  rw [step, done]

theorem asked_append (desk : Desk α σ) (program : α → Relay Response) (surroundings : σ)
    (entry : α × Event relaying) :
    (⟨program, surroundings, desk.log ++ [entry]⟩ : Desk α σ).asked actor =
      desk.asked actor ++ if entry.1 = actor then [entry.2] else [] := by
  by_cases same : entry.1 = actor <;> simp [asked, same]

/-- What was asked for each request is the beginning of a run of its program, which what is still
to be done goes on with. -/
def Sound (start : α → Relay Response) (desk : Desk α σ) : Prop :=
  ∀ actor trace outcome, (desk.program actor).Runs trace outcome →
    (start actor).Runs (desk.asked actor ++ trace) outcome

theorem Sound.step {start : α → Relay Response} (sound : Sound start desk)
    (answer : (call : Call) → σ → call.Answer × σ) (actor : α) :
    Sound start (desk.step answer actor) := by
  intro other trace outcome run
  cases program : desk.program actor with
  | done response =>
    rw [step_of_done program] at run ⊢
    exact sound other trace outcome run
  | ask call next =>
    simp only [Desk.step, program] at run ⊢
    rw [asked_append]
    by_cases same : actor = other
    · subst same
      rw [Function.update_self] at run
      rw [if_pos rfl, List.append_assoc]
      refine sound actor _ outcome ?_
      rw [program]
      exact .answered _ run
    · rw [Function.update_of_ne (Ne.symm same)] at run
      rw [if_neg same, List.append_nil]
      exact sound other trace outcome run

theorem Sound.after {start : α → Relay Response} (sound : Sound start desk)
    (answer : (call : Call) → σ → call.Answer × σ) (schedule : List α) :
    Sound start (desk.after answer schedule) := by
  induction schedule generalizing desk with
  | nil => exact sound
  | cons actor schedule ih => exact ih (sound.step answer actor)

theorem sound_opened (rules : Epoch.Rules) (lines : α → List String) (requests : α → Request)
    (surroundings : σ) :
    Sound (fun actor => respond rules (lines actor) (requests actor))
      (opened rules lines requests surroundings) :=
  fun _ _ _ run => run

theorem Sound.runs_response {start : α → Relay Response} {response : Response}
    (sound : Sound start desk) (responded : desk.response? actor = some response) :
    (start actor).Runs (desk.asked actor) (some response) := by
  have run := sound actor [] (some response)
  rw [response?_eq_some_iff.mp responded, List.append_nil] at run
  exact run (.done response)

theorem Sound.runs_asking {start : α → Relay Response} (sound : Sound start desk)
    (unanswered : desk.response? actor = none) :
    ∃ call, (start actor).Runs (desk.asked actor ++ [⟨call, none⟩]) none := by
  cases program : desk.program actor with
  | done response =>
    rw [response?_eq_some_iff.mpr program] at unanswered
    cases unanswered
  | ask call next =>
    have run := sound actor [⟨call, none⟩] none
    rw [program] at run
    exact ⟨call, run (.broken call next)⟩

section Stages

variable {rules : Epoch.Rules} {lines : α → List String} {requests : α → Request}
  (sound : Sound (fun actor => respond rules (lines actor) (requests actor)) desk)
include sound

/-- Nothing is asked for a request that is not let through, which has its response at once. -/
theorem Sound.turned_away (rejected : (requests actor).errand? = none) :
    desk.asked actor = [] ∧ ∃ response, desk.response? actor = some response := by
  obtain ⟨response, program⟩ := @respond_of_rejected rules (lines actor) _ rejected
  cases responded : desk.response? actor with
  | some shown =>
    have run := sound.runs_response responded
    rw [program] at run
    exact ⟨(Program.runs_done run).1, shown, rfl⟩
  | none =>
    obtain ⟨call, run⟩ := sound.runs_asking responded
    rw [program] at run
    cases (Program.runs_done run).2

/-- How far the handling of a request that is let through has come. -/
theorem Sound.stage {errand : Errand} (admitted : (requests actor).errand? = some errand) :
    Stage rules (requests actor).method errand (desk.asked actor) (desk.response? actor) := by
  have program := @respond_of_admitted rules (lines actor) _ _ admitted
  cases responded : desk.response? actor with
  | some response =>
    have run := sound.runs_response responded
    rw [program] at run
    exact stage_of_done run
  | none =>
    obtain ⟨call, run⟩ := sound.runs_asking responded
    rw [program] at run
    exact stage_of_asking run

theorem Sound.received_eq (actor : α) (kind : RequestKind) :
    Metrics.count (desk.asked actor).notes (.requestBegan kind) =
      if (requests actor).kind? = some kind ∧ desk.begun actor then 1 else 0 := by
  cases admitted : (requests actor).errand? with
  | none => simp [Request.kind?, admitted, (sound.turned_away admitted).1, Metrics.count]
  | some errand =>
    rw [(sound.stage admitted).count_eq rfl]
    simp [Request.kind?, admitted, begun]

theorem Sound.ended_eq (actor : α) (kind : RequestKind) (well : Bool) :
    Metrics.count (desk.asked actor).notes (.requestEnded kind well) =
      if (requests actor).kind? = some kind ∧ desk.ended well actor then 1 else 0 := by
  cases admitted : (requests actor).errand? with
  | none => simp [Request.kind?, admitted, (sound.turned_away admitted).1, Metrics.count]
  | some errand =>
    rw [(sound.stage admitted).count_eq rfl]
    unfold ended
    cases desk.response? actor <;> simp [Request.kind?, admitted]

/-- The handling that has begun is under way, or has ended well or in a fault. -/
theorem Sound.begun_eq (actor : α) (kind : RequestKind) :
    (if (requests actor).kind? = some kind ∧ desk.begun actor then 1 else 0) =
      (if (requests actor).kind? = some kind ∧ desk.ended true actor then 1 else 0) +
        (if (requests actor).kind? = some kind ∧ desk.ended false actor then 1 else 0) +
        (if (requests actor).kind? = some kind ∧ desk.underWay actor then 1 else 0) := by
  cases admitted : (requests actor).errand? with
  | none => simp [Request.kind?, admitted]
  | some errand =>
    have stage := sound.stage admitted
    unfold begun ended underWay begun
    generalize desk.asked actor = asked at stage ⊢
    generalize desk.response? actor = response at stage ⊢
    by_cases same : errand.kind = kind
    · cases stage with
      | waiting => simp
      | handling => simp
      | @done _ outcome =>
        simp only [Option.any_some, status_withoutContent, errand.status_response]
        cases outcome.isOk <;> simp
    · simp [Request.kind?, admitted, same]

end Stages

/-- How often something was noted is the sum over the requests for which it was. -/
theorem count_log [Fintype α] (log : List (α × Event relaying)) (note : Note) :
    Metrics.count (Trace.notes (log.map (·.2))) note =
      ∑ actor, Metrics.count (Trace.notes ((log.filter (·.1 = actor)).map (·.2))) note := by
  induction log with
  | nil => simp [Metrics.count]
  | cons entry log ih =>
    have first (actor : α) :
        Metrics.count (Trace.notes (((entry :: log).filter (·.1 = actor)).map (·.2))) note =
          (if entry.1 = actor then Metrics.count entry.2.call.note?.toList note else 0) +
            Metrics.count (Trace.notes ((log.filter (·.1 = actor)).map (·.2))) note := by
      by_cases same : entry.1 = actor
      · simp [same, Metrics.count_append]
      · simp [same]
    rw [List.map_cons, Trace.notes_cons, Metrics.count_append, ih]
    simp only [first, Finset.sum_add_distrib, Finset.sum_ite_eq, Finset.mem_univ, if_true]

theorem count_notes [Fintype α] (desk : Desk α σ) (note : Note) :
    Metrics.count desk.notes note = ∑ actor, Metrics.count (desk.asked actor).notes note :=
  count_log desk.log note

variable [Fintype α]

/-- The requests of a kind for which something holds. -/
def those (requests : α → Request) (kind : RequestKind) (holds : α → Bool) : Finset α :=
  Finset.univ.filter fun actor => (requests actor).kind? = some kind ∧ holds actor

/-- The counters of a kind of requests. -/
structure Accounted (requests : α → Request) (desk : Desk α σ) (kind : RequestKind) : Prop where
  received : Metrics.received desk.notes kind = (those requests kind desk.begun).card
  /-- Any response but one of a fault counts as ended well. -/
  answered : Metrics.answered desk.notes kind = (those requests kind (desk.ended true)).card
  failed : Metrics.failed desk.notes kind = (those requests kind (desk.ended false)).card
  /-- The gauge shows how many requests are under way. -/
  inFlight : Metrics.gauge kind desk.notes = (those requests kind desk.underWay).card
  idle : (∀ actor, (requests actor).kind? = some kind → desk.underWay actor = false) →
    Metrics.gauge kind desk.notes = 0
  balanced : (Metrics.received desk.notes kind : Int) =
    Metrics.answered desk.notes kind + Metrics.failed desk.notes kind +
      Metrics.gauge kind desk.notes
  /-- These are the values that the metrics show. -/
  shown : Metrics.requestSamples desk.notes kind =
    [⟨"requests_received", [("type", kind.word)], (those requests kind desk.begun).card⟩,
      ⟨"requests_ok", [("type", kind.word)], (those requests kind (desk.ended true)).card⟩,
      ⟨"err_requests", [("type", kind.word)], (those requests kind (desk.ended false)).card⟩,
      ⟨"requests_inflight", [("type", kind.word)], (those requests kind desk.underWay).card⟩]

theorem Sound.accounted {rules : Epoch.Rules} {lines : α → List String} {requests : α → Request}
    (sound : Sound (fun actor => respond rules (lines actor) (requests actor)) desk)
    (kind : RequestKind) : Accounted requests desk kind := by
  have received : Metrics.received desk.notes kind = (those requests kind desk.begun).card := by
    rw [Metrics.received, count_notes, those, Finset.card_filter]
    exact Finset.sum_congr rfl fun actor _ => sound.received_eq actor kind
  have ended (well : Bool) : Metrics.count desk.notes (.requestEnded kind well) =
      (those requests kind (desk.ended well)).card := by
    rw [count_notes, those, Finset.card_filter]
    exact Finset.sum_congr rfl fun actor _ => sound.ended_eq actor kind well
  have parts : (those requests kind desk.begun).card =
      (those requests kind (desk.ended true)).card + (those requests kind (desk.ended false)).card +
        (those requests kind desk.underWay).card := by
    simp only [those, Finset.card_filter, ← Finset.sum_add_distrib]
    exact Finset.sum_congr rfl fun actor _ => sound.begun_eq actor kind
  have inFlight : Metrics.gauge kind desk.notes = (those requests kind desk.underWay).card := by
    rw [Metrics.gauge_eq, received, Metrics.answered, Metrics.failed, ended, ended, parts]
    omega
  refine ⟨received, ended true, ended false, inFlight, fun idle => ?_, ?_, ?_⟩
  · rw [inFlight, those, Finset.filter_eq_empty_iff.mpr]
    · rfl
    · rintro actor - ⟨ofKind, underWay⟩
      rw [idle actor ofKind] at underWay
      cases underWay
  · rw [Metrics.gauge_eq]
    omega
  · rw [Metrics.requestSamples, received, inFlight, Metrics.answered, Metrics.failed, ended, ended]

end Desk

/-- What becomes of a request among others. -/
structure Answered {α σ : Type} [DecidableEq α] (answer : (call : Call) → σ → call.Answer × σ)
    (rules : Epoch.Rules) (request : Request) (desk : Desk α σ) (actor : α) : Prop where
  letThrough : ∀ errand, request.errand? = some errand ↔ isReadable request = true ∧
    ∃ target, Target.ofString request.target = .ok target ∧ errand.AskedAt request target
  /-- A request that is not let through has its response, and nothing is asked for it or changes on
  its account. -/
  turnedAway : request.errand? = none → desk.asked actor = [] ∧ desk.step answer actor = desk ∧
    ∃ response, desk.response? actor = some response
  /-- The response is what the handling came to, and that is what is counted. -/
  responded : ∀ errand response, request.errand? = some errand →
    desk.response? actor = some response → ∃ trace outcome,
      (errand.action rules).run.Runs trace (some outcome) ∧
      desk.asked actor = ⟨.note (.requestBegan errand.kind), some ()⟩ :: trace ++
        [⟨.note (.requestEnded errand.kind outcome.isOk), some ()⟩] ∧
      desk.ended outcome.isOk actor = true ∧
      response = withoutContent request.method (errand.response outcome) ∧
      ∀ fault, outcome = .error fault →
        response = withoutContent request.method (.text 500 fault.message)
  /-- A query for a hash without a record ended well. -/
  unknown : ∀ hash response, request.errand? = some (.proofStatus hash) →
    desk.response? actor = some response →
    ⟨.fetch (Blank.trim hash), some (.ok none)⟩ ∈ desk.asked actor →
      desk.ended true actor = true ∧
      response = withoutContent request.method
        (.json 404 (.record [("error", .text ("No proof record for " ++ hash))]))

namespace Desk

variable {α σ : Type} [DecidableEq α] {answer : (call : Call) → σ → call.Answer × σ}
  {rules : Epoch.Rules} {lines : α → List String} {requests : α → Request} {desk : Desk α σ}
  {actor : α} (sound : Sound (fun actor => respond rules (lines actor) (requests actor)) desk)
include sound

theorem Sound.responded {errand : Errand} {response : Response}
    (admitted : (requests actor).errand? = some errand)
    (responded : desk.response? actor = some response) : ∃ trace outcome,
      (errand.action rules).run.Runs trace (some outcome) ∧
      desk.asked actor = ⟨.note (.requestBegan errand.kind), some ()⟩ :: trace ++
        [⟨.note (.requestEnded errand.kind outcome.isOk), some ()⟩] ∧
      desk.ended outcome.isOk actor = true ∧
      response = withoutContent (requests actor).method (errand.response outcome) := by
  have stage := sound.stage admitted
  rw [responded] at stage
  generalize asked? : desk.asked actor = asked at stage ⊢
  cases stage with
  | @done trace outcome handles =>
    refine ⟨trace, outcome, handles, rfl, ?_, rfl⟩
    rw [ended, responded]
    simp [status_withoutContent, errand.status_response]

theorem Sound.answered (actor : α) : Answered answer rules (requests actor) desk actor where
  letThrough := fun _ => errand?_eq_some_iff
  turnedAway := by
    intro rejected
    obtain ⟨asked, response, responded⟩ := sound.turned_away rejected
    exact ⟨asked, step_of_done (response?_eq_some_iff.mp responded), response, responded⟩
  responded := by
    intro errand response admitted responded
    obtain ⟨trace, outcome, handles, asked, ended, rfl⟩ := sound.responded admitted responded
    refine ⟨trace, outcome, handles, asked, ended, rfl, ?_⟩
    rintro fault rfl
    cases errand <;> rfl
  unknown := by
    intro hash response admitted responded fetched
    obtain ⟨trace, outcome, handles, asked, ended, rfl⟩ := sound.responded admitted responded
    obtain rfl := Program.runs_query handles
    rw [asked] at fetched
    cases fetched with
    | tail _ later =>
      cases later with
      | head => exact ⟨ended, rfl⟩
      | tail _ last => cases List.mem_singleton.mp last

end Desk

/-- Whatever is asked for which request next and whatever is answered, every counter shows how many
requests have come how far, and every response is the one that was counted. -/
theorem requests_balance {α σ : Type} [Fintype α] [DecidableEq α]
    (answer : (call : Call) → σ → call.Answer × σ) (rules : Epoch.Rules)
    (lines : α → List String) (requests : α → Request) (surroundings : σ) (schedule : List α) :
    let desk := (Desk.opened rules lines requests surroundings).after answer schedule
    (∀ kind, Desk.Accounted requests desk kind) ∧
      ∀ actor, Answered answer rules (requests actor) desk actor := by
  intro desk
  have sound := (Desk.sound_opened rules lines requests surroundings).after answer schedule
  exact ⟨sound.accounted, sound.answered⟩

end Server

end HeaderRelay
