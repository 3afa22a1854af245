import HeaderRelay.Launch.Supervision
import HeaderRelay.Proofs.Acknowledging
import HeaderRelay.Proofs.Attendance
import HeaderRelay.Server.Listener

set_option autoImplicit false

namespace HeaderRelay

namespace Program

variable {I : Interface} {α : Type}

theorem exists_told {p : Program I α} {told : Trace I.cancellable}
    (run : p.cancellable.Runs told (some none)) : ∃ event ∈ told, event.reply = some none := by
  obtain ⟨trace, rfl, broken⟩ := cancellable_runs run
  obtain ⟨event, member, unanswered⟩ := broken.unanswered
  refine ⟨event.cancellable, List.mem_map_of_mem member, ?_⟩
  show some event.reply = some none
  rw [unanswered]

end Program

namespace Epoch

open Retry

variable {rules : Rules} {policy : Policy} {fuel : Nat} {state : LoopState}
  {told : Trace relaying.cancellable}

/-- A question that is answered by the signal to stop. -/
def Tells (event : Event relaying.cancellable) : Prop := event.reply = some none

/-- The loop ends without a fault only if it is told to stop. -/
theorem attendFrom_told (run : (attendFrom rules policy fuel state).Runs told
    (some (some (.ok ())))) : ∃ event ∈ told, Tells event := by
  induction fuel generalizing state told with
  | zero => cases (Program.runs_done run).2
  | succ fuel ih =>
    rw [attendFrom_succ] at run
    obtain ⟨outcome, before, after, rfl, iterated, rest⟩ := Program.runs_bind_ended run
    cases outcome with
    | none =>
      obtain ⟨event, member, tells⟩ := Program.exists_told iterated
      exact ⟨event, List.mem_append_left _ member, tells⟩
    | some ended =>
      obtain ⟨noted, first, later, rfl, note, goes⟩ := Program.runs_bind_ended rest
      have further : ∃ event ∈ later, Tells event := by
        generalize state.after policy ended = next at goes
        obtain ⟨next, decision⟩ := next
        cases decision with
        | proceed => exact ih goes
        | stop fault => cases (Program.runs_done goes).2
        | pause delay =>
          obtain ⟨reply, waited, rest, rfl, wait, resumed⟩ := Program.runs_bind_ended goes
          obtain rfl := Program.runs_query wait
          cases reply with
          | none => exact ⟨_, List.mem_append_left _ (List.mem_singleton.mpr rfl), rfl⟩
          | some _ =>
            obtain ⟨event, member, tells⟩ := ih resumed
            exact ⟨event, List.mem_append_right _ member, tells⟩
      obtain ⟨event, member, tells⟩ := further
      exact ⟨event, List.mem_append_right _ (List.mem_append_right _ member), tells⟩

end Epoch

namespace Bus.Consumer

variable {s : Settings} {link link' : Link} {delivery : Delivery} {fuel : Nat}
  {handlings : List Handling} {trace : Consumption} {outcome : Option (Except Fault Unit)}

/-- The consumer ends without a fault only if it is told to stop. -/
theorem Consumed.told (consumed : Consumed delivery fuel handlings trace outcome)
    (clean : outcome = some (.ok ())) : arriving .cancelled ∈ trace := by
  induction consumed with
  | exhausted => cases clean
  | closed fuel => cases clean
  | cancelled fuel => exact List.mem_singleton.mpr rfl
  | lost later ih => exact List.mem_cons_of_mem _ (ih clean)
  | handled sound later ih => exact List.mem_append_right _ (ih clean)

theorem serve_told (run : (serve s link fuel).Runs trace (some (some (.ok ()), link'))) :
    arriving .cancelled ∈ trace := by
  obtain ⟨⟨started, link''⟩, before, after, rfl, starts, rest⟩ := Program.runs_bind_ended run
  cases started with
  | error fault => cases (Program.runs_done rest).2
  | ok _ =>
    obtain ⟨ended, first, second, rfl, consumes, same⟩ := Program.runs_bind_ended rest
    obtain ⟨rfl, ⟨⟩⟩ := Program.runs_done same
    obtain ⟨handlings, consumed⟩ := consume_runs consumes
    have member := consumed.told rfl
    exact List.mem_append_right _ (List.mem_append_left _ member)

end Bus.Consumer

namespace Server

variable {port fuel : Nat} {trace : Trace socket}

/-- The server ends without a fault only if it is told to stop. -/
theorem accept_told (run : (accept fuel).Runs trace (some (some (.ok ())))) :
    (⟨.next, some .stopped⟩ : Event socket) ∈ trace := by
  induction fuel generalizing trace with
  | zero => cases (Program.runs_done run).2
  | succ fuel ih =>
    obtain ⟨knock, before, after, rfl, comes, goes⟩ := Program.runs_bind_ended run
    obtain rfl := Program.runs_query comes
    cases knock with
    | connection => exact List.mem_append_right _ (ih goes)
    | broken => cases (Program.runs_done goes).2
    | stopped => exact List.mem_append_left _ (List.mem_singleton.mpr rfl)

theorem listen_told (run : (listen port fuel).Runs trace (some (some (.ok ())))) :
    (⟨.next, some .stopped⟩ : Event socket) ∈ trace := by
  obtain ⟨bound, before, after, rfl, binds, goes⟩ := Program.runs_bind_ended run
  cases bound with
  | false => cases (Program.runs_done goes).2
  | true => exact List.mem_append_right _ (accept_told goes)

end Server

namespace Launch

/-- How a task comes to its end. -/
inductive Ending
  | clean
  | faulty
  deriving DecidableEq, Repr

def Ending.of {ε : Type} : Except ε Unit → Ending
  | .ok _ => .clean
  | .error _ => .faulty

/-- A task that shares a signal to stop with others, and heeds it. -/
structure Worker where
  I : Interface
  /-- A question is answered by the signal to stop. -/
  Tells : HeaderRelay.Event I → Prop
  /-- The task comes to its end after some questions. -/
  Ends : Trace I → Ending → Prop
  /-- It ends without a fault only once it was told to stop. -/
  heeds : ∀ {trace}, Ends trace .clean → ∃ event ∈ trace, Tells event

theorem of_eq_clean {ε : Type} {outcome : Except ε Unit} (clean : Ending.of outcome = .clean) :
    outcome = .ok () := by
  cases outcome with
  | ok _ => rfl
  | error _ => cases clean

def epochTask (rules : Epoch.Rules) (policy : Retry.Policy) : Worker where
  I := relaying.cancellable
  Tells := Epoch.Tells
  Ends trace ending := ∃ fuel outcome, Ending.of outcome = ending ∧
    (Epoch.attend rules policy fuel).Runs trace (some (some outcome))
  heeds := by
    rintro trace ⟨fuel, outcome, clean, run⟩
    rw [of_eq_clean clean] at run
    exact Epoch.attendFrom_told run

/-- The consumer of results, from a link that may be set up by then. -/
def consumerTask (s : Bus.Settings) : Worker where
  I := Bus.busServer.both relaying
  Tells event := event = Bus.Consumer.arriving .cancelled
  Ends trace ending := ∃ link fuel outcome link', Ending.of outcome = ending ∧
    (Bus.Consumer.serve s link fuel).Runs trace (some (some outcome, link'))
  heeds := by
    rintro trace ⟨link, fuel, outcome, link', clean, run⟩
    rw [of_eq_clean clean] at run
    exact ⟨_, Bus.Consumer.serve_told run, rfl⟩

def serverTask (port : Nat) : Worker where
  I := Server.socket
  Tells event := event = ⟨.next, some .stopped⟩
  Ends trace ending := ∃ fuel outcome, Ending.of outcome = ending ∧
    (Server.listen port fuel).Runs trace (some (some outcome))
  heeds := by
    rintro trace ⟨fuel, outcome, clean, run⟩
    rw [of_eq_clean clean] at run
    exact ⟨_, Server.listen_told run, rfl⟩

def Plan.worker (plan : Plan) : Component → Worker
  | .epochLoop => epochTask plan.rules plan.retry
  | .resultConsumer => consumerTask plan.bus
  | .server => serverTask plan.port

end Launch

end HeaderRelay
