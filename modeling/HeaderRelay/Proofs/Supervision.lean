import HeaderRelay.Proofs.Components
import Mathlib.Logic.Function.Basic
import Mathlib.Logic.Relation

/-
A relay under way, with its components at work. Each asks its own questions, in any order among the
others, and may be told to stop only once the signal was given; what it comes to is settled by its
own program. Seen from outside this is the relay of the launch, whose components heed the signal
only once it was given. The main statement is that no component is down without the signal, and that
the signal goes back to the caller or to a component with a fault.
-/

set_option autoImplicit false

namespace HeaderRelay

namespace Launch

inductive Stage
  | running
  /-- It has a fault, and is about to give the signal. -/
  | failing
  | finished (ending : Ending)
  deriving DecidableEq, Repr

/-- The phase of a stage, seen from outside. -/
def Stage.phase : Stage → Phase
  | .running => .running
  | .failing => .failing
  | .finished _ => .ended

def Stage.troubled : Stage → Bool
  | .failing => true
  | .finished .faulty => true
  | _ => false

/-- Workers under way that share a signal to stop. -/
structure Team (workers : Component → Worker) where
  /-- What each has asked so far. -/
  trace : (c : Component) → Trace (workers c).I
  stage : Component → Stage
  /-- Whether the signal to stop was given. -/
  cancelled : Bool
  /-- Whether the caller gave it. -/
  called : Bool
  /-- The workers for which the handle of the relay still waits. -/
  awaited : List Component

namespace Team

variable {workers : Component → Worker} {s t : Team workers} {c : Component}

def everybody : List Component := [.epochLoop, .resultConsumer, .server]

/-- Everybody has just been started; the caller may have given the signal before. -/
def start (workers : Component → Worker) (called : Bool) : Team workers :=
  ⟨fun _ => [], fun _ => .running, called, called, everybody⟩

def move (s : Team workers) (c : Component) (stage : Stage) : Team workers :=
  { s with stage := Function.update s.stage c stage }

def Finished (s : Team workers) (c : Component) : Prop := ∃ ending, s.stage c = .finished ending

/-- The handle sees that a worker has finished. -/
inductive Joins : Team workers → Team workers → Prop
  | join {s : Team workers} {c : Component} (member : c ∈ s.awaited) (finished : s.Finished c) :
      Joins s { s with awaited := s.awaited.erase c }

inductive Steps : Team workers → Team workers → Prop
  | call (s : Team workers) : Steps s { s with cancelled := true, called := true }
  /-- A worker asks a question, and is told to stop only if the signal was given. -/
  | ask {s : Team workers} {c : Component} (running : s.stage c = .running)
      (event : HeaderRelay.Event (workers c).I)
      (shared : (workers c).Tells event → s.cancelled = true) :
      Steps s { s with trace := Function.update s.trace c (s.trace c ++ [event]) }
  | fail {s : Team workers} {c : Component} (running : s.stage c = .running)
      (ends : (workers c).Ends (s.trace c) .faulty) : Steps s (s.move c .failing)
  | give {s : Team workers} {c : Component} (failing : s.stage c = .failing) :
      Steps s { s.move c (.finished .faulty) with cancelled := true }
  | leave {s : Team workers} {c : Component} (running : s.stage c = .running)
      (ends : (workers c).Ends (s.trace c) .clean) : Steps s (s.move c (.finished .clean))
  | join {s t : Team workers} (joins : Joins s t) : Steps s t

inductive Reachable : Team workers → Prop
  | start (called : Bool) : Reachable (start workers called)
  | step {s t : Team workers} (before : Reachable s) (happens : Steps s t) : Reachable t

/-- The handle of the relay completes, without anything else happening. -/
def Completes (s : Team workers) : Prop :=
  ∃ t, Relation.ReflTransGen Joins s t ∧ t.awaited = []

/-- What holds at all times. -/
structure Sound (s : Team workers) : Prop where
  /-- Nobody is told to stop before the signal. -/
  told : ∀ c, ∀ event ∈ s.trace c, (workers c).Tells event → s.cancelled = true
  /-- Nobody has finished before the signal. -/
  stopped : ∀ c, s.Finished c → s.cancelled = true
  /-- Somebody gave the signal. -/
  given : s.cancelled = true → s.called = true ∨ ∃ c, s.stage c = .finished .faulty
  /-- The handle no longer waits only for those that have finished. -/
  joined : ∀ c, c ∉ s.awaited → s.Finished c

theorem mem_everybody (c : Component) : c ∈ everybody := by
  cases c <;> decide

theorem stage_move_self (s : Team workers) (c : Component) (stage : Stage) :
    (s.move c stage).stage c = stage := by
  simp only [move, Function.update_self]

theorem stage_move_of_ne {stage : Stage} {other : Component} (ne : other ≠ c) :
    (s.move c stage).stage other = s.stage other := by
  simp only [move, Function.update_of_ne ne]

theorem finished_move_of_ne {stage : Stage} {other : Component} (ne : other ≠ c) :
    (s.move c stage).Finished other ↔ s.Finished other := by
  rw [Finished, Finished, stage_move_of_ne ne]

theorem not_finished_of_running (running : s.stage c = .running) : ¬ s.Finished c := by
  rintro ⟨ending, finished⟩
  cases running.symm.trans finished

theorem not_finished_of_failing (failing : s.stage c = .failing) : ¬ s.Finished c := by
  rintro ⟨ending, finished⟩
  cases failing.symm.trans finished

/-- Who has finished stays so when somebody who has not is moved on. -/
theorem Finished.move {other : Component} {stage : Stage} (finished : s.Finished other)
    (active : ¬ s.Finished c) : (s.move c stage).Finished other := by
  have ne : other ≠ c := by
    rintro rfl
    exact active finished
  exact (finished_move_of_ne ne).mpr finished

/-- Who has finished with a fault is still there when somebody who has not finished is moved on. -/
theorem exists_faulty_move {stage : Stage} (active : ¬ s.Finished c)
    (faulty : ∃ other, s.stage other = .finished .faulty) :
    ∃ other, (s.move c stage).stage other = .finished .faulty := by
  obtain ⟨other, finished⟩ := faulty
  have ne : other ≠ c := by
    rintro rfl
    exact active ⟨.faulty, finished⟩
  exact ⟨other, (stage_move_of_ne ne).trans finished⟩

theorem sound_start (called : Bool) : Sound (start workers called) where
  told := by
    intro c event member
    cases member
  stopped := by
    rintro c ⟨ending, finished⟩
    cases finished
  given := Or.inl
  joined := by
    intro c absent
    exact absurd (mem_everybody c) absent

/-- What holds at all times, with a worker moved on that does not finish. -/
theorem Sound.fail (sound : Sound s) (running : s.stage c = .running) :
    Sound (s.move c .failing) where
  told := sound.told
  stopped := by
    intro other finished
    by_cases same : other = c
    · obtain ⟨ending, finished⟩ := finished
      rw [same, stage_move_self] at finished
      cases finished
    · exact sound.stopped other ((finished_move_of_ne same).mp finished)
  given := by
    intro cancelled
    exact (sound.given cancelled).imp_right (exists_faulty_move (not_finished_of_running running))
  joined := by
    intro other absent
    exact (sound.joined other absent).move (not_finished_of_running running)

/-- A worker that gives the signal is a reason for it. -/
theorem Sound.give (sound : Sound s) (failing : s.stage c = .failing) :
    Sound { s.move c (.finished .faulty) with cancelled := true } where
  told := fun _ _ _ _ => rfl
  stopped := fun _ _ => rfl
  given := fun _ => .inr ⟨c, stage_move_self s c _⟩
  joined := by
    intro other absent
    exact (sound.joined other absent).move (not_finished_of_failing failing)

/-- A worker that leaves was told to stop, so the signal was given. -/
theorem Sound.leave (sound : Sound s) (running : s.stage c = .running)
    (ends : (workers c).Ends (s.trace c) .clean) : Sound (s.move c (.finished .clean)) where
  told := sound.told
  stopped := by
    intro _ _
    obtain ⟨event, member, tells⟩ := (workers c).heeds ends
    exact sound.told c event member tells
  given := by
    intro cancelled
    exact (sound.given cancelled).imp_right (exists_faulty_move (not_finished_of_running running))
  joined := by
    intro other absent
    exact (sound.joined other absent).move (not_finished_of_running running)

theorem Sound.ask (sound : Sound s) (event : HeaderRelay.Event (workers c).I)
    (shared : (workers c).Tells event → s.cancelled = true) :
    Sound { s with trace := Function.update s.trace c (s.trace c ++ [event]) } where
  told := by
    intro other asked member tells
    by_cases same : other = c
    · subst same
      dsimp only at member
      rw [Function.update_self, List.mem_append, List.mem_singleton] at member
      rcases member with before | rfl
      · exact sound.told other asked before tells
      · exact shared tells
    · dsimp only at member
      rw [Function.update_of_ne same] at member
      exact sound.told other asked member tells
  stopped := sound.stopped
  given := sound.given
  joined := sound.joined

theorem Sound.join (sound : Sound s) (joins : Joins s t) : Sound t := by
  cases joins with
  | @join seen member finished =>
    refine ⟨sound.told, sound.stopped, sound.given, ?_⟩
    intro other absent
    by_cases same : other = seen
    · exact same ▸ finished
    · refine sound.joined other ?_
      intro waits
      exact absent ((List.mem_erase_of_ne same).mpr waits)

theorem Sound.step (sound : Sound s) (happens : Steps s t) : Sound t := by
  cases happens with
  | call => exact ⟨fun _ _ _ _ => rfl, fun _ _ => rfl, fun _ => .inl rfl, sound.joined⟩
  | ask running event shared => exact sound.ask event shared
  | fail running ends => exact sound.fail running
  | give failing => exact sound.give failing
  | leave running ends => exact sound.leave running ends
  | join joins => exact sound.join joins

theorem Reachable.sound (reachable : Reachable s) : Sound s := by
  induction reachable with
  | start called => exact sound_start called
  | step before happens ih => exact ih.step happens

theorem Joins.finished_iff (joins : Joins s t) (c : Component) : t.Finished c ↔ s.Finished c := by
  cases joins
  exact Iff.rfl

/-- The handle completes if and only if everybody has finished. -/
theorem Sound.completes_iff (sound : Sound s) : s.Completes ↔ ∀ c, s.Finished c := by
  constructor
  · rintro ⟨t, joins, done⟩ c
    have both : Sound t ∧ (t.Finished c ↔ s.Finished c) := by
      clear done
      induction joins with
      | refl => exact ⟨sound, Iff.rfl⟩
      | tail _ last ih => exact ⟨ih.1.join last, (last.finished_iff c).trans ih.2⟩
    have absent : c ∉ t.awaited := by
      rw [done]
      exact List.not_mem_nil
    exact both.2.mp (both.1.joined c absent)
  · intro finished
    generalize left : s.awaited.length = count
    induction count generalizing s with
    | zero => exact ⟨s, .refl, List.eq_nil_of_length_eq_zero left⟩
    | succ count ih =>
      obtain ⟨c, rest, awaited⟩ := List.exists_cons_of_length_eq_add_one left
      have member : c ∈ s.awaited := by
        rw [awaited]
        exact List.mem_cons_self
      have joins := Joins.join member (finished c)
      have fewer : (s.awaited.erase c).length = count := by
        rw [List.length_erase_of_mem member]
        omega
      obtain ⟨t, later, done⟩ := ih (sound.join joins) finished fewer
      exact ⟨t, .head joins later, done⟩

/-- The team seen from outside. -/
def outline (s : Team workers) : Run where
  phase c := (s.stage c).phase
  signalled := s.cancelled
  called := s.called
  faulty := everybody.any fun c => (s.stage c).troubled

theorem outline_move (s : Team workers) (c : Component) (stage : Stage) :
    (s.move c stage).outline.phase = (s.outline.move c stage.phase).phase := by
  funext other
  by_cases same : other = c
  · rw [same]
    simp only [outline, Run.move, stage_move_self, if_true]
  · simp only [outline, Run.move, stage_move_of_ne same, if_neg same]

theorem faulty_of_troubled (troubled : (s.stage c).troubled = true) : s.outline.faulty = true :=
  List.any_eq_true.mpr ⟨c, mem_everybody c, troubled⟩

/-- A worker that is moved on without a fault makes no difference to whether there was one. -/
theorem faulty_move {stage : Stage} (before : (s.stage c).troubled = false)
    (after : stage.troubled = false) : (s.move c stage).outline.faulty = s.outline.faulty := by
  have same : ∀ other, ((s.move c stage).stage other).troubled = (s.stage other).troubled := by
    intro other
    by_cases same : other = c
    · rw [same, stage_move_self, before, after]
    · rw [stage_move_of_ne same]
  simp only [outline, same]

theorem outline_eq {r : Run} (phase : s.outline.phase = r.phase)
    (signalled : s.cancelled = r.signalled) (called : s.called = r.called)
    (faulty : s.outline.faulty = r.faulty) : s.outline = r := by
  cases r
  cases phase
  cases signalled
  cases called
  cases faulty
  rfl

/-- What a worker does is seen from outside as an event of the relay, or not at all. -/
theorem Sound.outline_step (sound : Sound s) (happens : Steps s t) :
    t.outline = s.outline ∨ ∃ event, s.outline.after? event = some t.outline := by
  cases happens with
  | call => exact .inr ⟨.call, rfl⟩
  | ask running event shared => exact .inl rfl
  | @fail c running ends =>
    have active : s.outline.phase c = .running := congrArg Stage.phase running
    have troubled : ((s.move c .failing).stage c).troubled = true := by rw [stage_move_self]; rfl
    have seen := outline_eq (r := { s.outline.move c .failing with faulty := true })
      (outline_move s c .failing) rfl rfl (faulty_of_troubled troubled)
    refine .inr ⟨.fail c, ?_⟩
    rw [Run.after?, if_pos active, seen]
  | @give c failing =>
    have active : s.outline.phase c = .failing := congrArg Stage.phase failing
    have before : s.outline.faulty = true := faulty_of_troubled (c := c) (by rw [failing]; rfl)
    -- a worker that ends with its fault still counts, so that there was one stays known
    have troubled : ((s.move c (.finished .faulty)).stage c).troubled = true := by
      rw [stage_move_self]
      rfl
    have after : (s.move c (.finished .faulty)).outline.faulty = true :=
      faulty_of_troubled troubled
    have seen := outline_eq (s := { s.move c (.finished .faulty) with cancelled := true })
      (r := { s.outline.move c .ended with signalled := true })
      (outline_move s c (.finished .faulty)) rfl rfl (after.trans before.symm)
    refine .inr ⟨.give c, ?_⟩
    rw [Run.after?, if_pos active, seen]
  | @leave c running ends =>
    have active : s.outline.phase c = .running := congrArg Stage.phase running
    obtain ⟨event, member, tells⟩ := (workers c).heeds ends
    have signalled : s.outline.signalled = true := sound.told c event member tells
    have same : (s.move c (.finished .clean)).outline.faulty = s.outline.faulty :=
      faulty_move (by rw [running]; rfl) rfl
    refine .inr ⟨.heed c, ?_⟩
    rw [Run.after?, if_pos ⟨active, signalled⟩]
    exact congrArg some (outline_eq (outline_move s c _) rfl rfl same).symm
  | join joins =>
    cases joins
    exact .inl rfl

/-- Seen from outside, workers under way are a relay under way. -/
theorem Reachable.outline (reachable : Reachable s) : Run.Reachable s.outline := by
  induction reachable with
  | start called =>
    cases called with
    | false => exact .start
    | true => exact .step .call .start rfl
  | step before happens ih =>
    rcases before.sound.outline_step happens with same | ⟨event, after⟩
    · rw [same]
      exact ih
    · exact .step event ih after

end Team

/-- A relay from its launch on: first all that it is started with is checked, and only then are its
components started. -/
inductive Node
  /-- What is left of the checks. -/
  | preparing (left : Program Ledger.contractNode (Except Defect Plan)) (called : Bool)
  | refused (defect : Defect)
  | relaying (plan : Plan) (team : Team plan.worker)

namespace Node

inductive Steps : Node → Node → Prop
  | call (left : Program Ledger.contractNode (Except Defect Plan)) (called : Bool) :
      Steps (.preparing left called) (.preparing left true)
  | ask {call : Ledger.NodeCall}
      {next : call.Answer → Program Ledger.contractNode (Except Defect Plan)}
      (reply : call.Answer) (called : Bool) :
      Steps (.preparing (.ask call next) called) (.preparing (next reply) called)
  | refuse (defect : Defect) (called : Bool) :
      Steps (.preparing (.done (.error defect)) called) (.refused defect)
  | begin (plan : Plan) (called : Bool) :
      Steps (.preparing (.done (.ok plan)) called) (.relaying plan (.start plan.worker called))
  | relay {plan : Plan} {before after : Team plan.worker} (happens : before.Steps after) :
      Steps (.relaying plan before) (.relaying plan after)

def Reachable (s : Settings) (files : String → Option Bytes) (node : Node) : Prop :=
  Relation.ReflTransGen Steps (.preparing (prepare s files).run false) node

/-- A node that came of a launch: what is left of the checks is left of a run of them, and the
components work as started after checks that went well. -/
def Sound (s : Settings) (files : String → Option Bytes) : Node → Prop
  | .preparing left _ => ∃ before, ∀ after outcome, left.Runs after outcome →
      (prepare s files).run.Runs (before ++ after) outcome
  | .refused defect => ∃ trace, (prepare s files).run.Runs trace (some (.error defect))
  | .relaying plan team =>
      (∃ trace, (prepare s files).run.Runs trace (some (.ok plan))) ∧ team.Reachable

variable {s : Settings} {files : String → Option Bytes} {node next : Node}

theorem Sound.step (sound : node.Sound s files) (happens : Steps node next) :
    next.Sound s files := by
  cases happens with
  | call => exact sound
  | @ask call next reply called =>
    obtain ⟨before, runs⟩ := sound
    refine ⟨before ++ [⟨call, some reply⟩], fun after outcome run => ?_⟩
    rw [List.append_assoc]
    exact runs _ outcome
      (@Program.Runs.answered Ledger.contractNode _ call next after outcome reply run)
  | refuse defect called =>
    obtain ⟨before, runs⟩ := sound
    exact ⟨_, runs [] _ (.done _)⟩
  | begin plan called =>
    obtain ⟨before, runs⟩ := sound
    exact ⟨⟨_, runs [] _ (.done _)⟩, .start called⟩
  | relay happens => exact ⟨sound.1, .step sound.2 happens⟩

theorem Reachable.sound (reachable : Reachable s files node) : node.Sound s files := by
  induction reachable with
  | refl => exact ⟨[], fun _ _ run => run⟩
  | tail _ happens ih => exact ih.step happens

def started : Node → Bool
  | .relaying _ _ => true
  | _ => false

theorem started_of_failed {defect : Defect} {called : Bool}
    (later : Relation.ReflTransGen Steps (.preparing (.done (.error defect)) called) node) :
    node.started = false := by
  have known : node = .refused defect ∨
      ∃ called, node = .preparing (.done (.error defect)) called := by
    induction later with
    | refl => exact .inr ⟨called, rfl⟩
    | tail _ happens ih =>
      rcases ih with rfl | ⟨called, rfl⟩
      · cases happens
      · cases happens with
        | call => exact .inr ⟨true, rfl⟩
        | refuse => exact .inl rfl
  rcases known with rfl | ⟨called, rfl⟩ <;> rfl

theorem steps_of_runs {p : Program Ledger.contractNode (Except Defect Plan)}
    {trace : Trace Ledger.contractNode} {outcome : Except Defect Plan}
    (run : p.Runs trace (some outcome)) (called : Bool) :
    Relation.ReflTransGen Steps (.preparing p called) (.preparing (.done outcome) called) := by
  generalize ended : some outcome = result at run
  induction run with
  | done a =>
    cases ended
    exact .refl
  | broken => cases ended
  | answered reply rest ih => exact .head (.ask reply called) (ih ended)

end Node

/-- A relay is never left with a component down: whatever each component hears and in whatever order
they work and end, one that has finished leaves the signal given; the signal was given by the caller
or by a component with a fault; the handle completes if and only if all have finished; and nothing
is started unless the checks went well. -/
theorem relay_ends_together (s : Settings) (files : String → Option Bytes) :
    (∀ plan team, Node.Reachable s files (.relaying plan team) →
      (∃ trace, (prepare s files).run.Runs trace (some (.ok plan))) ∧
      (∀ c, team.Finished c → team.cancelled = true) ∧
      (team.cancelled = true → team.called = true ∨ ∃ c, team.stage c = .finished .faulty) ∧
      (team.Completes ↔ ∀ c, team.Finished c) ∧
      team.outline.Reachable) ∧
    ∀ trace defect, (prepare s files).run.Runs trace (some (.error defect)) →
      Node.Reachable s files (.preparing (.done (.error defect)) false) ∧
      ∀ called node,
        Relation.ReflTransGen Node.Steps (.preparing (.done (.error defect)) called) node →
          node.started = false := by
  constructor
  · intro plan team reachable
    obtain ⟨prepared, under⟩ := reachable.sound
    have sound := under.sound
    exact ⟨prepared, sound.stopped, sound.given, sound.completes_iff, under.outline⟩
  · intro trace defect run
    exact ⟨Node.steps_of_runs run false, fun _ _ later => Node.started_of_failed later⟩

def smallSettings : Settings where
  port := 80
  chain := ⟨"http://n", "http://a", 43200, 3, 20, 30⟩
  ledger := ⟨"http://l", "0x5FbDB2315678afecb367f032d93F642f64180aa3", "key", none⟩
  bus := ⟨"nats://b", "T", "S", "R", "Q", .atMostOnce, "c", 5⟩
  prover := ⟨"http://p", 600⟩
  retry := ⟨.all, .fixed 1, none⟩

/-- The files of a small relay: the least key. -/
def smallFiles (path : String) : Option Bytes :=
  if path = "key" then some (List.replicate 63 48 ++ [49]) else none

/-- A node that only knows its chain. -/
def bareNode : (call : Ledger.NodeCall) → Unit → call.Answer × Unit
  | .chainId, _ => (some 1, ())
  | .call _, _ => (none, ())
  | .nonce, _ => (none, ())
  | .gas _, _ => (none, ())
  | .send _, _ => (none, ())
  | .find _, _ => (none, ())
  | .receipt _, _ => (none, ())

theorem exists_small_plan : ∃ trace plan,
    (prepare smallSettings smallFiles).run.Runs trace (some (.ok plan)) := by
  obtain ⟨trace, run, -⟩ := Program.exists_runs_run (I := Ledger.contractNode) bareNode
    (prepare smallSettings smallFiles).run ()
  have well : ((prepare smallSettings smallFiles).run.run (I := Ledger.contractNode) bareNode
      ()).1.isOk = true := by decide +kernel
  generalize (Program.run (I := Ledger.contractNode) bareNode
    (prepare smallSettings smallFiles).run ()).1 = outcome at run well
  cases outcome with
  | error defect => cases well
  | ok plan => exact ⟨trace, plan, run⟩

theorem ends_of_port_taken (port : Nat) :
    (serverTask port).Ends [⟨Server.PortCall.bind port, some false⟩] .faulty :=
  ⟨0, .error "*", rfl,
    @Program.Runs.answered Server.socket _ (.bind port) _ _ _ false (.done _)⟩

/-- A worker that fails at its first question ends with a fault, whatever the others do. -/
theorem Team.exists_faulty {workers : Component → Worker} {s : Team workers} {c : Component}
    (running : s.stage c = .running) (fresh : s.trace c = [])
    {event : HeaderRelay.Event (workers c).I} (silent : ¬ (workers c).Tells event)
    (ends : (workers c).Ends [event] .faulty) :
    ∃ t, Relation.ReflTransGen Team.Steps s t ∧ t.stage c = .finished .faulty ∧
      t.called = s.called ∧ ∀ other, other ≠ c → t.stage other = s.stage other := by
  have asked := Steps.ask running event fun tells => absurd tells silent
  generalize later : ({ s with
    trace := Function.update s.trace c (s.trace c ++ [event]) } : Team workers) = t at asked
  have failed : (workers c).Ends (t.trace c) .faulty := by
    rw [← later]
    dsimp only
    rw [Function.update_self, fresh]
    exact ends
  have active : t.stage c = .running := by
    rw [← later]
    exact running
  have fails := Steps.fail active failed
  have gives := Steps.give (stage_move_self t c .failing)
  refine ⟨_, .tail (.tail (.single asked) fails) gives, ?_, ?_, ?_⟩
  · exact stage_move_self _ c _
  · rw [← later]
    rfl
  · intro other ne
    show (((t.move c .failing).move c (.finished .faulty)).stage other) = _
    rw [stage_move_of_ne ne, stage_move_of_ne ne, ← later]

/-- A port that is taken brings down the server, and with it the relay. -/
theorem relay_ends_together_port_taken :
    ∃ plan team, Node.Reachable smallSettings smallFiles (.relaying plan team) ∧
      team.Finished .server ∧ team.cancelled = true ∧ team.called = false ∧
      (∃ c, team.stage c = .finished .faulty) ∧ ¬ team.Completes ∧ team.outline.Reachable := by
  obtain ⟨trace, plan, run⟩ := exists_small_plan
  obtain ⟨team, steps, ended, uncalled, others⟩ :=
    @Team.exists_faulty plan.worker (.start plan.worker false) .server rfl rfl _
      (by rintro ⟨⟩) (ends_of_port_taken plan.port)
  have started := (Node.steps_of_runs run false).tail (.begin plan false)
  have later := started.trans (steps.lift (Node.relaying plan) fun _ _ => .relay)
  obtain ⟨_, stopped, given, completes, outline⟩ :=
    (relay_ends_together smallSettings smallFiles).1 plan team later
  have cancelled := stopped .server ⟨.faulty, ended⟩
  refine ⟨plan, team, later, ⟨.faulty, ended⟩, cancelled, uncalled, ?_, ?_, outline⟩
  · refine (given cancelled).resolve_left ?_
    rw [uncalled]
    exact Bool.false_ne_true
  · intro complete
    obtain ⟨ending, finished⟩ := completes.mp complete .epochLoop
    cases finished.symm.trans (others .epochLoop (by decide))

end Launch

end HeaderRelay
