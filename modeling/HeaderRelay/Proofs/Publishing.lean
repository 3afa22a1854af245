import HeaderRelay.Proofs.Preparation
import HeaderRelay.Relay.Metrics

set_option autoImplicit false

namespace HeaderRelay.Bus.Publisher

def confirmation : Receipt → Except Fault Unit
  | .unsent => .error ⟨.bus, "Publish failed: *"⟩
  | .silent => .error ⟨.bus, "Publish not acknowledged: *"⟩
  | .reply body =>
      if (Acknowledgement.ofBody? body).isSome then .ok ()
      else .error ⟨.bus, "Publish not acknowledged: *"⟩

/-- The message of a question, if it was sent. -/
def message? : Event busServer → Option (String × String)
  | ⟨.publish _ _, some Receipt.unsent⟩ => none
  | ⟨.publish subject payload, some _⟩ => some (subject, payload)
  | _ => none

/-- The messages that were sent, in order. -/
def sent (trace : Trace busServer) : List (String × String) := trace.filterMap message?

inductive Attempt
  /-- The set-up failed, and the task was not given to the server. -/
  | unprepared (task : ProvingTask) (asked : Trace busServer) (fault : Fault)
  /-- The set-up went well, and the task got a receipt. -/
  | prepared (task : ProvingTask) (asked : Trace busServer) (receipt : Receipt)
  /-- The set-up had gone well before, and the task got a receipt. -/
  | ready (task : ProvingTask) (receipt : Receipt)

namespace Attempt

def task : Attempt → ProvingTask
  | unprepared task _ _ | prepared task _ _ | ready task _ => task

/-- What the set-up asked and how it ended, if it was tried. -/
def setUp? : Attempt → Option (Trace busServer × Except Fault Unit)
  | unprepared _ asked fault => some (asked, .error fault)
  | prepared _ asked _ => some (asked, .ok ())
  | ready _ _ => none

def setsUp : Attempt → Bool
  | prepared _ _ _ => true
  | unprepared _ _ _ | ready _ _ => false

/-- The receipt for the task, if it was given to the server. -/
def receipt? : Attempt → Option Receipt
  | unprepared _ _ _ => none
  | prepared _ _ receipt | ready _ receipt => some receipt

/-- The question by which the task was given to the server. -/
def delivery (s : Settings) (task : ProvingTask) (receipt : Receipt) : Event busServer :=
  ⟨.publish s.taskSubject task.toJson.toText, some receipt⟩

def asked (s : Settings) : Attempt → Trace busServer
  | unprepared _ asked _ => asked
  | prepared task asked receipt => asked ++ [delivery s task receipt]
  | ready task receipt => [delivery s task receipt]

def outcome : Attempt → Except Fault Unit
  | unprepared _ _ fault => .error fault
  | prepared _ _ receipt | ready _ receipt => confirmation receipt

/-- The message that was sent, if one was. -/
def messages (s : Settings) (attempt : Attempt) : List (String × String) :=
  match attempt.receipt? with
  | none | some .unsent => []
  | some _ => [(s.taskSubject, attempt.task.toJson.toText)]

/-- A call takes the set-up from one link to another. -/
inductive Happens (s : Settings) : Link → Attempt → Link → Prop
  | unprepared {link later : Link} {task : ProvingTask} {asked : Trace busServer} {fault : Fault}
      (missing : link.ready = false) (prepared : Prepared s link asked (.error fault) later) :
      Happens s link (.unprepared task asked fault) later
  | prepared {link later : Link} {task : ProvingTask} {asked : Trace busServer}
      {receipt : Receipt} (missing : link.ready = false)
      (prepared : Prepared s link asked (.ok ()) later) :
      Happens s link (.prepared task asked receipt) later
  | ready {link : Link} {task : ProvingTask} {receipt : Receipt} (ready : link.ready = true) :
      Happens s link (.ready task receipt) link

end Attempt

section Calls

variable {s : Settings} {link later : Link} {trace : Trace busServer} {ended : Except Fault Unit}
  {task : ProvingTask}

theorem setUp_eq (s : Settings) (link : Link) :
    (setUp s).run.run link =
      if link.ready then .done (.ok (), link) else (prepare s).run.run link :=
  Session.unless_eq Link.ready (prepare s) link

theorem confirm_cases {receipt : Receipt}
    (run : Session.Runs (confirm receipt) link trace ended later) :
    trace = [] ∧ ended = confirmation receipt ∧ later = link := by
  cases receipt with
  | unsent => exact Session.runs_fail run
  | silent => exact Session.runs_fail run
  | reply body =>
    rw [confirm] at run
    cases known : (Acknowledgement.ofBody? body).isSome with
    | true =>
      rw [known] at run
      obtain ⟨rfl, rfl, rfl⟩ := Session.runs_return run
      simp [confirmation, known]
    | false =>
      rw [known] at run
      obtain ⟨rfl, rfl, rfl⟩ := Session.runs_fail run
      simp [confirmation, known]

theorem deliver_cases
    (run : Session.Runs (do
      let receipt : Receipt ← Session.ask (.publish s.taskSubject task.toJson.toText)
      confirm receipt) link trace ended later) :
    ∃ receipt, trace = [Attempt.delivery s task receipt] ∧ ended = confirmation receipt ∧
      later = link := by
  obtain ⟨receipt, _, rfl, confirms⟩ := Session.runs_ask_bind run
  obtain ⟨rfl, rfl, rfl⟩ := confirm_cases confirms
  exact ⟨receipt, rfl, rfl, rfl⟩

theorem publish_cases (run : Session.Runs (publish s task) link trace ended later) :
    ∃ attempt : Attempt, attempt.task = task ∧ attempt.Happens s link later ∧
      trace = attempt.asked s ∧ ended = attempt.outcome := by
  rcases Session.runs_bind run with ⟨⟨⟩, middle, _, _, rfl, sets, delivers⟩ | ⟨fault, rfl, sets⟩
  · obtain ⟨receipt, rfl, rfl, rfl⟩ := deliver_cases delivers
    rw [Session.Runs, setUp_eq] at sets
    cases ready : link.ready with
    | true =>
      rw [ready] at sets
      obtain ⟨rfl, ⟨⟩⟩ := Program.runs_done sets
      exact ⟨.ready task receipt, rfl, .ready ready, rfl, rfl⟩
    | false =>
      rw [ready] at sets
      exact ⟨.prepared task _ receipt, rfl, .prepared ready (prepare_cases sets), rfl, rfl⟩
  · rw [Session.Runs, setUp_eq] at sets
    cases ready : link.ready with
    | true =>
      rw [ready] at sets
      cases (Program.runs_done sets).2
    | false =>
      rw [ready] at sets
      exact ⟨.unprepared task trace fault, rfl, .unprepared ready (prepare_cases sets), rfl, rfl⟩

end Calls

namespace Attempt

variable {s : Settings} {link later : Link} {attempt : Attempt}

/-- The set-up is tried unless it has gone well before. -/
theorem Happens.isSome_setUp? (happens : attempt.Happens s link later) :
    attempt.setUp?.isSome = !link.ready := by
  cases happens with
  | unprepared missing | prepared missing => simp [setUp?, missing]
  | ready ready => simp [setUp?, ready]

theorem Happens.ready_eq (happens : attempt.Happens s link later) :
    later.ready = (link.ready || attempt.setsUp) := by
  cases happens with
  | unprepared _ prepared | prepared _ prepared =>
    rw [Bool.eq_iff_iff, prepared.ready_iff]
    simp [setsUp]
  | ready ready => simp [ready]

/-- The task is given to the server exactly if the stream is in place by then. -/
theorem Happens.isSome_receipt? (happens : attempt.Happens s link later) :
    attempt.receipt?.isSome = later.ready := by
  rw [happens.ready_eq]
  cases happens with
  | unprepared missing => simp [receipt?, setsUp, missing]
  | prepared missing => simp [receipt?, setsUp]
  | ready ready => simp [receipt?, ready]

theorem not_connects_delivery (task : ProvingTask) (receipt : Receipt) :
    ¬Connects s [delivery s task receipt] :=
  nofun

theorem Happens.connected_iff (happens : attempt.Happens s link later) :
    later.connected = true ↔ link.connected = true ∨ Connects s (attempt.asked s) := by
  cases happens with
  | unprepared missing prepared => exact prepared.connected_iff
  | prepared missing prepared =>
    rw [prepared.connected_iff, asked, connects_append]
    simp [not_connects_delivery]
  | ready => simp [asked, not_connects_delivery]

theorem Happens.prepared? (happens : attempt.Happens s link later) {asked : Trace busServer}
    {ended : Except Fault Unit} (tried : attempt.setUp? = some (asked, ended)) :
    Prepared s link asked ended later := by
  cases happens with
  | unprepared missing prepared | prepared missing prepared =>
    cases tried
    exact prepared
  | ready => cases tried

theorem not_sent_of_setsUp {event : Event busServer} (sets : SetsUp s event.call) :
    message? event = none := by
  obtain ⟨call, reply⟩ := event
  cases sets <;> rfl

theorem sent_of_setsUp {asked : Trace busServer} (sets : ∀ event ∈ asked, SetsUp s event.call) :
    sent asked = [] :=
  List.filterMap_eq_nil_iff.mpr fun event member => not_sent_of_setsUp (sets event member)

theorem sent_append (before after : Trace busServer) :
    sent (before ++ after) = sent before ++ sent after :=
  List.filterMap_append

theorem sent_delivery (task : ProvingTask) (receipt : Receipt) :
    sent [delivery s task receipt] = messages s (.ready task receipt) := by
  cases receipt <;> rfl

theorem Happens.sent_eq (happens : attempt.Happens s link later) :
    sent (attempt.asked s) = attempt.messages s := by
  cases happens with
  | unprepared _ prepared => exact sent_of_setsUp prepared.setsUp
  | prepared _ prepared =>
    rw [asked, sent_append, sent_of_setsUp prepared.setsUp, sent_delivery]
    rfl
  | ready => exact sent_delivery _ _

theorem confirmation_eq_ok_iff {receipt : Receipt} :
    confirmation receipt = .ok () ↔
      ∃ body, receipt = .reply body ∧ (Acknowledgement.ofBody? body).isSome := by
  cases receipt with
  | unsent | silent => simp [confirmation]
  | reply body => simp [confirmation, Option.isSome_iff_ne_none]

theorem kind_of_confirmation {receipt : Receipt} {fault : Fault}
    (failed : confirmation receipt = .error fault) : fault.kind = .bus := by
  cases receipt with
  | unsent | silent =>
    cases failed
    rfl
  | reply body =>
    rw [confirmation] at failed
    split at failed
    · cases failed
    · cases failed
      rfl

/-- A call succeeds exactly if its task was acknowledged. -/
theorem Happens.outcome_eq_ok_iff (happens : attempt.Happens s link later) :
    attempt.outcome = .ok () ↔
      ∃ body, attempt.receipt? = some (.reply body) ∧ (Acknowledgement.ofBody? body).isSome := by
  cases happens with
  | unprepared => simp [outcome, receipt?]
  | prepared | ready => simp [outcome, receipt?, confirmation_eq_ok_iff]

theorem Happens.kind (happens : attempt.Happens s link later) {fault : Fault}
    (failed : attempt.outcome = .error fault) : fault.kind = .bus := by
  cases happens with
  | unprepared _ prepared =>
    cases failed
    exact prepared.kind
  | prepared | ready => exact kind_of_confirmation failed

end Attempt

/-- What a call asked and how it ended. -/
structure Publication where
  asked : Trace busServer
  outcome : Except Fault Unit

/-- What a call amounts to for the server and the caller. -/
def Attempt.publication (s : Settings) (attempt : Attempt) : Publication :=
  ⟨attempt.asked s, attempt.outcome⟩

namespace Office

variable {σ : Type} (answer : (call : busServer.Call) → σ → busServer.Reply call × σ)
  (s : Settings)

/-- What a call asks, and how it ends. -/
def publication (office : Office σ) (task : ProvingTask) : Publication :=
  ⟨((Publisher.publish s task).run.run office.link).transcript answer office.server,
    (office.publish answer s task).1⟩

/-- Publishes tasks one after another. -/
def publishAll (office : Office σ) : List ProvingTask → List Publication × Office σ
  | [] => ([], office)
  | task :: tasks =>
      let (publications, last) := (office.publish answer s task).2.publishAll tasks
      (office.publication answer s task :: publications, last)

theorem publish_cases (office : Office σ) (task : ProvingTask) :
    ∃ attempt : Attempt, attempt.task = task ∧
      attempt.Happens s office.link (office.publish answer s task).2.link ∧
      office.publication answer s task = attempt.publication s := by
  have run := Program.runs_transcript answer ((Publisher.publish s task).run.run office.link)
    office.server
  obtain ⟨attempt, named, happens, asked, outcome⟩ := Publisher.publish_cases run
  refine ⟨attempt, named, happens, ?_⟩
  rw [Attempt.publication, ← asked, ← outcome]
  rfl

end Office

/-- Calls take the set-up from one link to another. -/
inductive Row (s : Settings) : Link → List Attempt → Link → Prop
  | nil (link : Link) : Row s link [] link
  | cons {link middle later : Link} {attempt : Attempt} {attempts : List Attempt}
      (first : attempt.Happens s link middle) (rest : Row s middle attempts later) :
      Row s link (attempt :: attempts) later

namespace Row

variable {s : Settings} {link later : Link} {attempts before after : List Attempt}
  {attempt : Attempt}

theorem split (row : Row s link (before ++ attempt :: after) later) :
    ∃ first second, Row s link before first ∧ attempt.Happens s first second ∧
      Row s second after later := by
  induction before generalizing link with
  | nil =>
    cases row with
    | cons happens rest => exact ⟨link, _, .nil link, happens, rest⟩
  | cons earlier before ih =>
    cases row with
    | cons happens rest =>
      obtain ⟨first, second, row, last, rest⟩ := ih rest
      exact ⟨first, second, .cons happens row, last, rest⟩

theorem happens (row : Row s link attempts later) (member : attempt ∈ attempts) :
    ∃ first second, attempt.Happens s first second := by
  obtain ⟨before, after, rfl⟩ := List.append_of_mem member
  obtain ⟨first, second, -, happens, -⟩ := row.split
  exact ⟨first, second, happens⟩

/-- The stream is in place from the first call whose set-up goes well. -/
theorem ready_eq (row : Row s link attempts later) :
    later.ready = (link.ready || attempts.any Attempt.setsUp) := by
  induction row with
  | nil => simp
  | cons first rest ih => rw [ih, first.ready_eq, List.any_cons, Bool.or_assoc]

theorem connected_iff (row : Row s link attempts later) :
    later.connected = true ↔
      link.connected = true ∨ ∃ attempt ∈ attempts, Connects s (attempt.asked s) := by
  induction row with
  | nil => simp
  | cons first rest ih =>
    rw [ih, first.connected_iff]
    simp only [List.mem_cons, exists_eq_or_imp, or_assoc]

theorem sent_eq (row : Row s link attempts later) :
    sent (attempts.flatMap (Attempt.asked s)) = attempts.flatMap (Attempt.messages s) := by
  induction row with
  | nil => rfl
  | cons first rest ih =>
    rw [List.flatMap_cons, List.flatMap_cons, Attempt.sent_append, ih, first.sent_eq]

end Row

namespace Office

variable {σ : Type} (answer : (call : busServer.Call) → σ → busServer.Reply call × σ)
  (s : Settings)

theorem publishAll_cons (office : Office σ) (task : ProvingTask) (tasks : List ProvingTask) :
    (office.publishAll answer s (task :: tasks)).1 =
      office.publication answer s task ::
        ((office.publish answer s task).2.publishAll answer s tasks).1 :=
  rfl

theorem publishAll_cases (office : Office σ) (tasks : List ProvingTask) :
    ∃ attempts : List Attempt, attempts.map Attempt.task = tasks ∧
      Row s office.link attempts (office.publishAll answer s tasks).2.link ∧
      (office.publishAll answer s tasks).1 = attempts.map (Attempt.publication s) := by
  induction tasks generalizing office with
  | nil => exact ⟨[], rfl, .nil _, rfl⟩
  | cons task tasks ih =>
    obtain ⟨attempt, named, happens, published⟩ := publish_cases answer s office task
    obtain ⟨attempts, names, row, rest⟩ := ih (office.publish answer s task).2
    refine ⟨attempt :: attempts, by rw [List.map_cons, named, names], .cons happens row, ?_⟩
    rw [publishAll_cons, published, rest, List.map_cons]

theorem publishAll_append (office : Office σ) (first second : List ProvingTask) :
    (office.publishAll answer s (first ++ second)).1 =
      (office.publishAll answer s first).1 ++
        ((office.publishAll answer s first).2.publishAll answer s second).1 := by
  induction first generalizing office with
  | nil => rfl
  | cons task first ih =>
    rw [List.cons_append, publishAll_cons, ih, publishAll_cons]
    rfl

theorem publishAll_notes (server : σ) (link : Link) (notes notes' : List Note)
    (tasks : List ProvingTask) :
    (publishAll answer s ⟨server, link, notes⟩ tasks).1 =
      (publishAll answer s ⟨server, link, notes'⟩ tasks).1 := by
  induction tasks generalizing server link notes notes' with
  | nil => rfl
  | cons task tasks ih =>
    rw [publishAll_cons, publishAll_cons]
    exact congrArg _ (ih _ _ _ _)

theorem notes_publishAll (office : Office σ) (tasks : List ProvingTask) :
    (office.publishAll answer s tasks).2.notes =
      ((office.publishAll answer s tasks).1.map (note ·.outcome)).reverse ++ office.notes := by
  induction tasks generalizing office with
  | nil => rfl
  | cons task tasks ih =>
    have rest := ih (office.publish answer s task).2
    simp only [publishAll, List.map_cons, List.reverse_cons, List.append_assoc]
    exact rest

theorem count_publishAll (office : Office σ) (tasks : List ProvingTask) :
    Metrics.count (office.publishAll answer s tasks).2.notes .taskPublished =
        (office.publishAll answer s tasks).1.countP (·.outcome.isOk) +
          Metrics.count office.notes .taskPublished ∧
      Metrics.count (office.publishAll answer s tasks).2.notes .taskRefused =
        (office.publishAll answer s tasks).1.countP (!·.outcome.isOk) +
          Metrics.count office.notes .taskRefused := by
  have noted (outcome : Except Fault Unit) :
      (note outcome == .taskPublished) = outcome.isOk ∧
        (note outcome == .taskRefused) = !outcome.isOk := by
    cases outcome <;> exact ⟨rfl, rfl⟩
  rw [notes_publishAll]
  simp [Metrics.count, List.countP_map, Function.comp_def, noted]

end Office

/-- What calls of publishing do one after another, each as it went. -/
structure Orderly {σ : Type} (answer : (call : busServer.Call) → σ → busServer.Reply call × σ)
    (s : Settings) (office after : Office σ) (publications : List Publication)
    (attempts : List Attempt) : Prop where
  published : publications = attempts.map (Attempt.publication s)
  /-- Each call tries the set-up until it has gone well once. -/
  tried : ∀ earlier attempt rest, attempts = earlier ++ attempt :: rest →
    attempt.setUp?.isSome = !earlier.any Attempt.setsUp
  /-- A set-up that is tried finds at most a connection that was made before, and goes well exactly
  if it finds or creates the stream. -/
  prepared : ∀ earlier attempt rest asked ended, attempts = earlier ++ attempt :: rest →
    attempt.setUp? = some (asked, ended) → ∃ link later, Prepared s link asked ended later ∧
      (link.connected = true ↔ office.link.connected = true ∨
        ∃ other ∈ earlier, Connects s (other.asked s)) ∧
      (ended = .ok () ↔ InPlace s asked)
  /-- A task is given to the server exactly if the set-up has gone well by then. -/
  given : ∀ earlier attempt rest, attempts = earlier ++ attempt :: rest →
    attempt.receipt?.isSome = (earlier ++ [attempt]).any Attempt.setsUp
  /-- Each call sends its own task at most, and once, on the subject of tasks. -/
  sends : ∀ attempt ∈ attempts, sent (attempt.asked s) = attempt.messages s
  /-- The messages are sent in the order of the calls. -/
  inOrder : sent (publications.flatMap (·.asked)) = attempts.flatMap (Attempt.messages s)
  /-- A call succeeds exactly if its task was acknowledged. -/
  told : ∀ attempt ∈ attempts, attempt.outcome = .ok () ↔
    ∃ body, attempt.receipt? = some (.reply body) ∧ (Acknowledgement.ofBody? body).isSome
  failed : ∀ attempt ∈ attempts, ∀ fault, attempt.outcome = .error fault → fault.kind = .bus
  /-- Calls that succeeded are counted, and those that failed. -/
  counted : Metrics.count after.notes .taskPublished = publications.countP (·.outcome.isOk) ∧
    Metrics.count after.notes .taskRefused = publications.countP (!·.outcome.isOk)
  /-- What is left of the calls is whether a connection was made and whether a set-up went well. -/
  left : (after.link.connected = true ↔ office.link.connected = true ∨
      ∃ attempt ∈ attempts, Connects s (attempt.asked s)) ∧
    after.link.ready = attempts.any Attempt.setsUp
  /-- Later calls go by that and by the server alone. -/
  continued : ∀ (notes : List Note) (more : List ProvingTask),
    (office.publishAll answer s (attempts.map Attempt.task ++ more)).1 =
      publications ++ (Office.publishAll answer s ⟨after.server, after.link, notes⟩ more).1

/-- Whatever a bus server answers, calls of publishing set the stream of tasks up once, send each
task that they can, and are told and counted by whether it was acknowledged. -/
theorem tasks_accounted {σ : Type} (answer : (call : busServer.Call) → σ → busServer.Reply call × σ)
    (s : Settings) (server : σ) (connected : Bool) (tasks : List ProvingTask) :
    let office : Office σ := ⟨server, ⟨connected, false⟩, []⟩
    ∃ attempts : List Attempt, attempts.map Attempt.task = tasks ∧
      Orderly answer s office (office.publishAll answer s tasks).2
        (office.publishAll answer s tasks).1 attempts := by
  intro office
  obtain ⟨attempts, rfl, row, published⟩ := Office.publishAll_cases answer s office tasks
  refine ⟨attempts, rfl, ?_⟩
  exact {
    published
    tried := by
      rintro earlier attempt rest rfl
      obtain ⟨first, _, before, happens, -⟩ := row.split
      rw [happens.isSome_setUp?, before.ready_eq]
      rfl
    prepared := by
      rintro earlier attempt rest asked ended rfl tried
      obtain ⟨first, second, before, happens, -⟩ := row.split
      have prepared := happens.prepared? tried
      exact ⟨first, second, prepared, before.connected_iff, prepared.ok_iff⟩
    given := by
      rintro earlier attempt rest rfl
      obtain ⟨first, second, before, happens, -⟩ := row.split
      rw [happens.isSome_receipt?, happens.ready_eq, before.ready_eq, List.any_append]
      simp [office]
    sends := by
      intro attempt member
      obtain ⟨_, _, happens⟩ := row.happens member
      exact happens.sent_eq
    inOrder := by
      rw [published, List.flatMap_map]
      exact row.sent_eq
    told := by
      intro attempt member
      obtain ⟨_, _, happens⟩ := row.happens member
      exact happens.outcome_eq_ok_iff
    failed := by
      intro attempt member fault
      obtain ⟨_, _, happens⟩ := row.happens member
      exact happens.kind
    counted := Office.count_publishAll answer s office _
    left := by
      refine ⟨row.connected_iff, ?_⟩
      rw [row.ready_eq]
      rfl
    continued := by
      intro notes more
      rw [Office.publishAll_append]
      exact congrArg _ (Office.publishAll_notes answer s _ _ _ notes more)
  }

end HeaderRelay.Bus.Publisher
