import HeaderRelay.Proofs.Safety

/-
Runs of the epoch loop until it gives up or is told to stop, round by round. Between two rounds the
loop keeps a schedule and a number of failures; both are what the failures in a row make of a fresh
schedule and of nought, so a run is determined by how many these are.
-/

set_option autoImplicit false

namespace HeaderRelay

namespace Retry

namespace Backoff

/-- Where a schedule stands after a number of delays. -/
def advanced (backoff : Backoff) : Nat → Backoff
  | 0 => backoff
  | n + 1 => (backoff.advanced n).next.2

theorem reset_next (backoff : Backoff) : backoff.next.2.reset = backoff.reset := by
  cases backoff <;> rfl

@[simp] theorem reset_advanced (backoff : Backoff) (n : Nat) :
    (backoff.advanced n).reset = backoff.reset := by
  induction n with
  | zero => rfl
  | succ n ih => rw [advanced, reset_next, ih]

theorem reset_opening (read : Binary64 → Growth) (schedule : Schedule) :
    (opening read schedule).reset = opening read schedule := by
  cases schedule <;> rfl

@[simp] theorem reset_ofSchedule (schedule : Schedule) :
    (ofSchedule schedule).reset = ofSchedule schedule :=
  reset_opening .rounded schedule

end Backoff

/-- The delay of a fresh schedule after so many others. -/
def Schedule.delay (schedule : Schedule) (n : Nat) : Nat :=
  ((Backoff.ofSchedule schedule).advanced n).next.1

/-- A fault ends the attempts if it is not worth another one, or if it is the last of as many
failures as there may be attempts. -/
def Policy.Ends (policy : Policy) (fault : Fault) (failures : Nat) : Prop :=
  (policy.scope = .transientOnly ∧ fault.isTransient = false) ∨
    ∃ most, policy.maxAttempts = some most ∧ most ≤ failures

/-- The number of attempts of a policy can be counted by the loop. -/
def Policy.Countable (policy : Policy) : Prop :=
  ∀ most, policy.maxAttempts = some most → most ≤ Epoch.LoopState.mostFailures

theorem Policy.givesUp_iff_ends (policy : Policy) (fault : Fault) (failures : Nat) :
    policy.givesUp fault failures = true ↔ policy.Ends fault failures := by
  unfold givesUp Ends
  cases policy.maxAttempts <;> simp

/-- Counting failures only so far does not change when the loop gives up. -/
theorem Policy.givesUp_iff {policy : Policy} (countable : policy.Countable) (fault : Fault)
    (failures : Nat) :
    policy.givesUp fault (min failures Epoch.LoopState.mostFailures) = true ↔
      policy.Ends fault failures := by
  rw [givesUp_iff_ends]
  refine or_congr_right (exists_congr fun most => and_congr_right fun attempts => ?_)
  have bounded := countable most attempts
  omega

end Retry

namespace Epoch

open Retry

namespace LoopState

variable {policy : Policy} {failures : Nat} {fault : Fault}

/-- The state of the loop after some failures in a row. -/
def afterFailures (policy : Policy) (failures : Nat) : LoopState :=
  ⟨(Backoff.ofSchedule policy.schedule).advanced failures, min failures mostFailures⟩

theorem start_eq (policy : Policy) : start policy = afterFailures policy 0 := rfl

theorem after_ok (policy : Policy) (failures : Nat) (report : Report) :
    (afterFailures policy failures).after policy (.ok report) =
      (afterFailures policy 0, .proceed) := by
  simp only [after, afterFailures, Backoff.reset_advanced, Backoff.reset_ofSchedule,
    Backoff.advanced, Nat.zero_min]

theorem givesUp_next (countable : policy.Countable) :
    policy.givesUp fault (min ((afterFailures policy failures).failures + 1) mostFailures) = true ↔
      policy.Ends fault (failures + 1) := by
  have counted : min (min failures mostFailures + 1) mostFailures =
      min (failures + 1) mostFailures := by omega
  rw [afterFailures, counted]
  exact Policy.givesUp_iff countable fault (failures + 1)

theorem after_error_of_ends (countable : policy.Countable)
    (ends : policy.Ends fault (failures + 1)) :
    ((afterFailures policy failures).after policy (.error fault : Except Fault Report)).2 =
      .stop fault := by
  simp only [after, Policy.nextDelay, (givesUp_next countable).mpr ends, if_true]

/-- After any other failure the loop waits for the next delay of its schedule. -/
theorem after_error_of_not_ends (countable : policy.Countable)
    (goes : ¬ policy.Ends fault (failures + 1)) :
    (afterFailures policy failures).after policy (.error fault : Except Fault Report) =
      (afterFailures policy (failures + 1), .pause (policy.schedule.delay failures)) := by
  have counted : min (min failures mostFailures + 1) mostFailures =
      min (failures + 1) mostFailures := by omega
  simp only [after, Policy.nextDelay, (givesUp_next countable).not.mpr goes]
  simp only [afterFailures, counted, Bool.false_eq_true, if_false, Backoff.advanced,
    Schedule.delay]

end LoopState

/-- What the loop does while it waits, until it is told to stop. -/
def waiting (rules : Rules) (policy : Policy) (fuel : Nat) (state : LoopState) (delay : Nat) :
    Stoppable (Option (Except Fault Unit)) := do
  match ← Program.query (I := relaying.cancellable) (.wait delay) with
  | some _ => attendFrom rules policy fuel state
  | none => return some (.ok ())

/-- What the loop does after an iteration that came to its end, until it is told to stop. -/
def afterwards (rules : Rules) (policy : Policy) (fuel : Nat) (state : LoopState)
    (ended : Except Fault Report) : Stoppable (Option (Except Fault Unit)) := do
  let _ ← (noteFailure ended).cancellable
  match state.after policy ended with
  | (state, .proceed) => attendFrom rules policy fuel state
  | (state, .pause delay) => waiting rules policy fuel state delay
  | (_, .stop fault) => return some (.error fault)

/-- What the loop does after an iteration that was dropped. -/
def abandoned : Stoppable (Option (Except Fault Unit)) := do
  let _ ← Program.query (I := relaying.cancellable) (.note (.working false))
  return some (.ok ())

theorem attendFrom_succ (rules : Rules) (policy : Policy) (fuel : Nat) (state : LoopState) :
    attendFrom rules policy (fuel + 1) state =
      (iterate rules).run.cancellable.bind fun
        | none => abandoned
        | some ended => afterwards rules policy fuel state ended :=
  rfl

def Round.failed (round : Round) : Bool :=
  match round.outcome with
  | some (.error _) => true
  | _ => false

/-- The questions after a failed iteration: the failure is noted, and the loop may wait. A note
that is told to stop makes no difference. -/
def failing (fault : Fault) (noted : Option Unit) (waits : Trace relaying) : Trace relaying :=
  ⟨.note (.iterationFailed fault.kind), noted⟩ :: waits

/-- A wait, which may be cut short. -/
def pausing (delay : Nat) (reply : Option Unit) : Trace relaying := [⟨.wait delay, reply⟩]

@[simp] theorem map_failing (fault : Fault) (noted : Option Unit) (waits : Trace relaying) :
    (failing fault noted waits).map Event.cancellable =
      ⟨.note (.iterationFailed fault.kind), some noted⟩ :: waits.map Event.cancellable :=
  rfl

@[simp] theorem map_pausing (delay : Nat) (reply : Option Unit) :
    (pausing delay reply).map Event.cancellable = [⟨.wait delay, some reply⟩] :=
  rfl

/-- The rounds of a loop that had so many failures in a row before, and what it asks after them,
until it gives up or is told to stop or has come to the end of its fuel. A question without an
answer is one at which it was told to stop. -/
inductive Attended (rules : Rules) (policy : Policy) :
    Nat → Nat → List Round → Trace relaying → Option (Except Fault Unit) → Prop
  /-- The fuel is used up. -/
  | exhausted (failures : Nat) : Attended rules policy failures 0 [] [] none
  /-- It is told to stop in an iteration. -/
  | dropped {failures fuel : Nat} {body : Trace relaying}
      (runs : (iterate rules).run.Runs body none) (noted : Option Unit) :
      Attended rules policy failures (fuel + 1) []
        (body ++ [⟨.note (.working false), noted⟩]) (some (.ok ()))
  /-- An iteration succeeds. -/
  | succeeded {failures fuel : Nat} {body closing : Trace relaying} {rounds : List Round}
      {report : Report} {ended : Option (Except Fault Unit)}
      (runs : (iterate rules).run.Runs body (some (.ok report)))
      (later : Attended rules policy 0 fuel rounds closing ended) :
      Attended rules policy failures (fuel + 1) (⟨body, some (.ok report), []⟩ :: rounds) closing
        ended
  /-- An iteration fails, and the loop gives up. -/
  | gaveUp {failures fuel : Nat} {body : Trace relaying} {fault : Fault}
      (runs : (iterate rules).run.Runs body (some (.error fault)))
      (ends : policy.Ends fault (failures + 1)) (noted : Option Unit) :
      Attended rules policy failures (fuel + 1)
        [⟨body, some (.error fault), failing fault noted []⟩] [] (some (.error fault))
  /-- It is told to stop while it waits after a failure. -/
  | left {failures fuel : Nat} {body : Trace relaying} {fault : Fault}
      (runs : (iterate rules).run.Runs body (some (.error fault)))
      (goes : ¬ policy.Ends fault (failures + 1)) (noted : Option Unit) :
      Attended rules policy failures (fuel + 1)
        [⟨body, some (.error fault),
          failing fault noted (pausing (policy.schedule.delay failures) none)⟩] []
        (some (.ok ()))
  /-- It waits after a failure, and goes on. -/
  | waited {failures fuel : Nat} {body closing : Trace relaying} {rounds : List Round}
      {fault : Fault} {ended : Option (Except Fault Unit)}
      (runs : (iterate rules).run.Runs body (some (.error fault)))
      (goes : ¬ policy.Ends fault (failures + 1)) (noted : Option Unit)
      (later : Attended rules policy (failures + 1) fuel rounds closing ended) :
      Attended rules policy failures (fuel + 1)
        (⟨body, some (.error fault),
          failing fault noted (pausing (policy.schedule.delay failures) (some ()))⟩ :: rounds)
        closing ended

variable {rules : Rules} {policy : Policy} {failures fuel : Nat} {rounds : List Round}
  {closing trace : Trace relaying} {ended : Option (Except Fault Unit)} {round : Round}
  {told : Trace relaying.cancellable}

def asked (rounds : List Round) : Trace relaying := (rounds.map Round.events).flatten

@[simp] theorem asked_nil : asked [] = [] := rfl

@[simp] theorem asked_cons : asked (round :: rounds) = round.events ++ asked rounds := by
  simp [asked]

theorem noteFailure_runs {fault : Fault} {noted : Option Unit}
    (run : (noteFailure (.error fault : Except Fault Report)).cancellable.Runs told (some noted)) :
    told = (failing fault noted []).map Event.cancellable := by
  obtain ⟨trace, rfl, asked⟩ := Program.cancellable_runs run
  have noting : trace = [⟨.note (.iterationFailed fault.kind), noted⟩] := Program.runs_query asked
  rw [noting]
  rfl

theorem afterwards_ok (report : Report) :
    afterwards rules policy fuel (.afterFailures policy failures) (.ok report) =
      attendFrom rules policy fuel (.afterFailures policy 0) := by
  unfold afterwards
  rw [LoopState.after_ok]
  rfl

theorem afterwards_of_ends {fault : Fault} (countable : policy.Countable)
    (ends : policy.Ends fault (failures + 1)) :
    afterwards rules policy fuel (.afterFailures policy failures) (.error fault) =
      (noteFailure (.error fault : Except Fault Report)).cancellable.bind fun _ =>
        .done (some (.error fault)) := by
  unfold afterwards
  have stops := LoopState.after_error_of_ends countable ends
  generalize LoopState.after policy _ (Except.error fault) = next at stops
  obtain ⟨state, decision⟩ := next
  cases stops
  rfl

theorem afterwards_of_not_ends {fault : Fault} (countable : policy.Countable)
    (goes : ¬ policy.Ends fault (failures + 1)) :
    afterwards rules policy fuel (.afterFailures policy failures) (.error fault) =
      (noteFailure (.error fault : Except Fault Report)).cancellable.bind fun _ =>
        waiting rules policy fuel (.afterFailures policy (failures + 1))
          (policy.schedule.delay failures) := by
  unfold afterwards
  rw [LoopState.after_error_of_not_ends countable goes]
  rfl

/-- The loop from a state after some failures, until it ends. -/
theorem attendFrom_runs (countable : policy.Countable)
    (run : (attendFrom rules policy fuel (.afterFailures policy failures)).Runs told
      (some ended)) :
    ∃ rounds closing, told = (asked rounds ++ closing).map Event.cancellable ∧
      Attended rules policy failures fuel rounds closing ended := by
  induction fuel generalizing failures told with
  | zero =>
    obtain ⟨rfl, ⟨⟩⟩ := Program.runs_done run
    exact ⟨[], [], rfl, .exhausted failures⟩
  | succ fuel ih =>
    rw [attendFrom_succ] at run
    obtain ⟨outcome, _, _, rfl, first, rest⟩ := Program.runs_bind_ended run
    obtain ⟨body, rfl, iterated⟩ := Program.cancellable_runs first
    rcases outcome with _ | fault | report
    · obtain ⟨noted, _, _, rfl, note, finish⟩ := Program.runs_bind_ended rest
      obtain rfl := Program.runs_query note
      obtain ⟨rfl, ⟨⟩⟩ := Program.runs_done finish
      refine ⟨[], _, ?_, .dropped iterated noted⟩
      simp [Event.cancellable]
    · dsimp only at rest
      by_cases ends : policy.Ends fault (failures + 1)
      · rw [afterwards_of_ends countable ends] at rest
        obtain ⟨noted, _, _, rfl, note, finish⟩ := Program.runs_bind_ended rest
        obtain rfl := noteFailure_runs note
        obtain ⟨rfl, ⟨⟩⟩ := Program.runs_done finish
        refine ⟨_, [], ?_, .gaveUp iterated ends noted⟩
        simp [Round.events]
      · rw [afterwards_of_not_ends countable ends] at rest
        obtain ⟨noted, _, _, rfl, note, waits⟩ := Program.runs_bind_ended rest
        obtain rfl := noteFailure_runs note
        obtain ⟨reply, _, _, rfl, wait, further⟩ := Program.runs_bind_ended waits
        obtain rfl := Program.runs_query wait
        rcases reply with _ | ⟨⟩
        · obtain ⟨rfl, ⟨⟩⟩ := Program.runs_done further
          refine ⟨_, [], ?_, .left iterated ends noted⟩
          simp [Round.events]
          rfl
        · obtain ⟨rounds, closing, rfl, attended⟩ := ih further
          refine ⟨_, closing, ?_, .waited iterated ends noted attended⟩
          simp [Round.events]
          rfl
    · dsimp only at rest
      rw [afterwards_ok] at rest
      obtain ⟨rounds, closing, rfl, attended⟩ := ih rest
      refine ⟨_, closing, ?_, .succeeded iterated attended⟩
      simp [Round.events]

theorem runs_noteFailure (fault : Fault) (noted : Option Unit) :
    (noteFailure (.error fault : Except Fault Report)).cancellable.Runs
      ((failing fault noted []).map Event.cancellable) (some noted) := by
  refine Program.Runs.cancellable ?_
  cases noted with
  | none => exact .broken _ _
  | some _ => exact .answered _ (.done _)

theorem runs_told (call : Call) (reply : Option call.Answer) :
    (Program.query (I := relaying.cancellable) call).Runs [⟨call, some reply⟩] (some reply) :=
  @Program.Runs.answered relaying.cancellable _ call _ _ _ reply (.done reply)

/-- A wait that is not cut short, and what the loop does after it. -/
theorem runs_waiting {delay : Nat} {state : LoopState}
    (rest : (attendFrom rules policy fuel state).Runs told (some ended)) :
    (waiting rules policy fuel state delay).Runs
      ((pausing delay (some ())).map Event.cancellable ++ told) (some ended) :=
  @Program.Runs.answered relaying.cancellable _ (.wait delay) _ _ _ (some ()) rest

/-- A failure after which the loop waits. -/
theorem runs_failing {fault : Fault} (countable : policy.Countable)
    (goes : ¬ policy.Ends fault (failures + 1)) (noted : Option Unit)
    (waits : (waiting rules policy fuel (.afterFailures policy (failures + 1))
      (policy.schedule.delay failures)).Runs told (some ended)) :
    (afterwards rules policy fuel (.afterFailures policy failures) (.error fault)).Runs
      ((failing fault noted []).map Event.cancellable ++ told) (some ended) := by
  rw [afterwards_of_not_ends countable goes]
  exact (runs_noteFailure fault noted).bind waits

/-- An iteration that came to its end, and what the loop does after it. -/
theorem runs_succ {state : LoopState} {body : Trace relaying} {outcome : Except Fault Report}
    (runs : (iterate rules).run.Runs body (some outcome))
    (rest : (afterwards rules policy fuel state outcome).Runs told (some ended)) :
    (attendFrom rules policy (fuel + 1) state).Runs (body.map Event.cancellable ++ told)
      (some ended) := by
  rw [attendFrom_succ]
  exact runs.cancellable.bind rest

/-- Rounds that can be attended are a run of the loop. -/
theorem Attended.runs (countable : policy.Countable)
    (attended : Attended rules policy failures fuel rounds closing ended) :
    (attendFrom rules policy fuel (.afterFailures policy failures)).Runs
      ((asked rounds ++ closing).map Event.cancellable) (some ended) := by
  induction attended with
  | exhausted failures => exact .done none
  | @dropped failures fuel body runs noted =>
    have finish : abandoned.Runs [⟨.note (.working false), some noted⟩] (some (some (.ok ()))) :=
      (runs_told (.note (.working false)) noted).bind (.done _)
    rw [attendFrom_succ, asked_nil, List.nil_append, List.map_append]
    exact runs.cancellable.bind finish
  | @succeeded failures fuel body closing rounds report ended runs later ih =>
    have rest : (afterwards rules policy fuel (.afterFailures policy failures)
        (.ok report)).Runs ((asked rounds ++ closing).map Event.cancellable) (some ended) := by
      rw [afterwards_ok]
      exact ih
    simpa [Round.events] using runs_succ runs rest
  | @gaveUp failures fuel body fault runs ends noted =>
    have rest : (afterwards rules policy fuel (.afterFailures policy failures)
        (.error fault)).Runs ((failing fault noted []).map Event.cancellable ++ [])
        (some (some (.error fault))) := by
      rw [afterwards_of_ends countable ends]
      exact (runs_noteFailure fault noted).bind (.done _)
    simpa [Round.events] using runs_succ runs rest
  | @left failures fuel body fault runs goes noted =>
    have waits : (waiting rules policy fuel (.afterFailures policy (failures + 1))
        (policy.schedule.delay failures)).Runs
        ((pausing (policy.schedule.delay failures) none).map Event.cancellable)
        (some (some (.ok ()))) :=
      (runs_told (.wait _) none).bind (.done _)
    simpa [Round.events] using runs_succ runs (runs_failing countable goes noted waits)
  | @waited failures fuel body closing rounds fault ended runs goes noted later ih =>
    simpa [Round.events] using
      runs_succ runs (runs_failing countable goes noted (runs_waiting ih))

/-- The outcome of the loop that nobody tells to stop; it is broken off where it was told. -/
def undisturbed : Option (Except Fault Unit) → Option (Option Fault)
  | none => some none
  | some (.error fault) => some (some fault)
  | some (.ok ()) => none

theorem resume_ok (report : Report) :
    resume rules policy fuel (.afterFailures policy failures) (.ok report) =
      loopFrom rules policy fuel (.afterFailures policy 0) := by
  unfold resume
  rw [LoopState.after_ok]
  rfl

theorem resume_of_ends {fault : Fault} (countable : policy.Countable)
    (ends : policy.Ends fault (failures + 1)) :
    resume rules policy fuel (.afterFailures policy failures) (.error fault) =
      (noteFailure (.error fault : Except Fault Report)).bind fun _ => .done (some fault) := by
  unfold resume
  have stops := LoopState.after_error_of_ends countable ends
  generalize LoopState.after policy _ (Except.error fault) = next at stops
  obtain ⟨state, decision⟩ := next
  cases stops
  rfl

theorem resume_of_not_ends {fault : Fault} (countable : policy.Countable)
    (goes : ¬ policy.Ends fault (failures + 1)) :
    resume rules policy fuel (.afterFailures policy failures) (.error fault) =
      (noteFailure (.error fault : Except Fault Report)).bind fun _ =>
        (Program.query (I := relaying) (.wait (policy.schedule.delay failures))).bind fun _ =>
          loopFrom rules policy fuel (.afterFailures policy (failures + 1)) := by
  unfold resume
  rw [LoopState.after_error_of_not_ends countable goes]
  rfl

/-- A loop whose notes are taken is the loop that nobody tells to stop, broken off where it is told;
if that is in an iteration, it still notes that it is not busy any more. -/
theorem Attended.undisturbed (countable : policy.Countable)
    (attended : Attended rules policy failures fuel rounds closing ended)
    (taken : Trace.Taken (asked rounds ++ closing)) :
    ∃ front last, asked rounds ++ closing = front ++ last ∧
      (loopFrom rules policy fuel (.afterFailures policy failures)).Runs front
        (undisturbed ended) ∧
      (last = [] ∨ last = [⟨.note (.working false), some ()⟩]) := by
  induction attended with
  | exhausted failures => exact ⟨[], [], rfl, .done none, .inl rfl⟩
  | @dropped failures fuel body runs noted =>
    obtain rfl : noted = some () := taken.answered (n := .working false) (by simp)
    refine ⟨body, _, rfl, ?_, .inr rfl⟩
    rw [loopFrom_succ]
    exact runs.bind_broken
  | @succeeded failures fuel body closing rounds report ended runs later ih =>
    rw [asked_cons, List.append_assoc] at taken ⊢
    obtain ⟨front, last, same, goes, closes⟩ :=
      ih fun event member => taken event (List.mem_append_right _ member)
    refine ⟨body ++ front, last, ?_, ?_, closes⟩
    · simp [same, Round.events]
    · rw [loopFrom_succ]
      refine runs.bind ?_
      rw [resume_ok]
      exact goes
  | @gaveUp failures fuel body fault runs ends noted =>
    obtain rfl : noted = some () := taken.answered (n := .iterationFailed fault.kind)
      (by simp [Round.events, failing])
    have finish : (resume rules policy fuel (.afterFailures policy failures) (.error fault)).Runs
        (failing fault (some ()) []) (some (some fault)) := by
      rw [resume_of_ends countable ends]
      exact .answered _ (.done _)
    refine ⟨body ++ failing fault (some ()) [], [], by simp [Round.events], ?_, .inl rfl⟩
    rw [loopFrom_succ]
    exact runs.bind finish
  | @left failures fuel body fault runs goes noted =>
    obtain rfl : noted = some () := taken.answered (n := .iterationFailed fault.kind)
      (by simp [Round.events, failing])
    have finish : (resume rules policy fuel (.afterFailures policy failures) (.error fault)).Runs
        (failing fault (some ()) (pausing (policy.schedule.delay failures) none)) none := by
      rw [resume_of_not_ends countable goes]
      exact .answered _ (.broken _ _)
    refine ⟨body ++ failing fault (some ()) (pausing (policy.schedule.delay failures) none), [],
      by simp [Round.events], ?_, .inl rfl⟩
    rw [loopFrom_succ]
    exact runs.bind finish
  | @waited failures fuel body closing rounds fault ended runs goes noted later ih =>
    rw [asked_cons, List.append_assoc] at taken ⊢
    obtain ⟨front, last, same, further, closes⟩ :=
      ih fun event member => taken event (List.mem_append_right _ member)
    obtain rfl : noted = some () := taken.answered (n := .iterationFailed fault.kind)
      (by simp [Round.events, failing])
    have finish : (resume rules policy fuel (.afterFailures policy failures) (.error fault)).Runs
        (failing fault (some ()) (pausing (policy.schedule.delay failures) (some ())) ++ front)
        (Epoch.undisturbed ended) := by
      rw [resume_of_not_ends countable goes]
      exact .answered _ (.answered _ further)
    refine ⟨body ++ (failing fault (some ()) (pausing (policy.schedule.delay failures) (some ())) ++
      front), last, by simp [same, Round.events], ?_, closes⟩
    rw [loopFrom_succ]
    exact runs.bind finish

end Epoch

end HeaderRelay
