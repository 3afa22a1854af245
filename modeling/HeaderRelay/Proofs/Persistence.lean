import HeaderRelay.Proofs.Acceptance
import HeaderRelay.Proofs.Attendance
import HeaderRelay.Relay.Metrics

set_option autoImplicit false

namespace HeaderRelay

/-- Whether a question notes the failure of an iteration. -/
def Call.fails : Call → Bool
  | .note (.iterationFailed _) => true
  | _ => false

theorem Call.fails_of_searches (call : Call) (searches : call.searches = true) :
    call.fails = false := by
  cases call with
  | note n => cases n <;> first | rfl | cases searches
  | _ => rfl

/-- The counters of failed iterations together, one for each kind of fault. -/
def failuresCounted (notes : List Note) : Nat :=
  Fault.Kind.all.foldr (fun kind counted =>
    Metrics.count notes (.iterationFailed kind) + counted) 0

theorem failuresCounted_nil : failuresCounted [] = 0 := rfl

theorem failuresCounted_append (first second : List Note) :
    failuresCounted (first ++ second) = failuresCounted first + failuresCounted second := by
  simp only [failuresCounted, Fault.Kind.all, List.foldr, Metrics.count_append]
  omega

theorem failuresCounted_note? (call : Call) :
    failuresCounted call.note?.toList = if call.fails then 1 else 0 := by
  have other {n : Note} (quiet : ∀ kind, n ≠ .iterationFailed kind) : failuresCounted [n] = 0 := by
    simp [failuresCounted, Metrics.count, quiet]
  cases call with
  | note n =>
    cases n with
    | iterationFailed kind =>
      cases kind <;> simp [failuresCounted, Metrics.count, Call.note?, Call.fails, Fault.Kind.all]
    | _ => exact other (by simp)
  | _ => exact failuresCounted_nil

/-- The counters of failed iterations add up to the failures that were noted. -/
theorem failuresCounted_notes (trace : Trace relaying) :
    failuresCounted trace.notes = trace.countP (·.call.fails) := by
  induction trace with
  | nil => rfl
  | cons event trace ih =>
    have one : failuresCounted event.call.note?.toList = if event.call.fails then 1 else 0 :=
      failuresCounted_note? event.call
    rw [Trace.notes_cons, failuresCounted_append, one, ih, List.countP_cons, Nat.add_comm]

namespace Epoch

open Retry

/-- The failures in a row at the end of some rounds. -/
def streak (rounds : List Round) : Nat := (rounds.reverse.takeWhile Round.failed).length

/-- The failures in a row after some rounds, where there were so many before. -/
def tally (failures : Nat) (rounds : List Round) : Nat :=
  rounds.foldl (fun failures round => if round.failed then failures + 1 else 0) failures

/-- What a round does that comes after so many failures in a row: it succeeds, or it fails and the
loop gives up, or it fails and the loop waits for that delay of a fresh schedule. -/
inductive Round.Obeys (rules : Rules) (policy : Policy) (failures : Nat) : Round → Prop
  | succeeded {body : Trace relaying} {report : Report}
      (runs : (iterate rules).run.Runs body (some (.ok report))) :
      Obeys rules policy failures ⟨body, some (.ok report), []⟩
  | gaveUp {body : Trace relaying} {fault : Fault}
      (runs : (iterate rules).run.Runs body (some (.error fault)))
      (ends : policy.Ends fault (failures + 1)) (noted : Option Unit) :
      Obeys rules policy failures ⟨body, some (.error fault), failing fault noted []⟩
  | waited {body : Trace relaying} {fault : Fault}
      (runs : (iterate rules).run.Runs body (some (.error fault)))
      (goes : ¬ policy.Ends fault (failures + 1)) (noted reply : Option Unit) :
      Obeys rules policy failures ⟨body, some (.error fault),
        failing fault noted (pausing (policy.schedule.delay failures) reply)⟩

variable {rules : Rules} {policy : Policy} {failures fuel : Nat} {rounds before after : List Round}
  {closing trace body : Trace relaying} {ended : Option (Except Fault Unit)} {round : Round}
  {fault : Fault} {report : Report}

theorem streak_concat (rounds : List Round) (round : Round) :
    streak (rounds ++ [round]) = if round.failed then streak rounds + 1 else 0 := by
  unfold streak
  cases failed : round.failed <;> simp [failed]

theorem tally_zero (rounds : List Round) : tally 0 rounds = streak rounds := by
  induction rounds using List.reverseRecOn with
  | nil => rfl
  | append_singleton rounds round ih =>
    rw [streak_concat, ← ih, tally, List.foldl_append]
    rfl

/-- After a round the loop goes on, if there are more rounds or the round succeeded. -/
theorem Attended.tail
    (attended : Attended rules policy failures fuel (round :: after) closing ended)
    (goes : after ≠ [] ∨ round.failed = false) :
    ∃ more, fuel = more + 1 ∧
      Attended rules policy (if round.failed then failures + 1 else 0) more after closing ended := by
  cases attended with
  | succeeded runs later => exact ⟨_, rfl, later⟩
  | gaveUp runs ends noted =>
    rcases goes with more | succeeded
    · exact absurd rfl more
    · cases succeeded
  | left runs waits noted =>
    rcases goes with more | succeeded
    · exact absurd rfl more
    · cases succeeded
  | waited runs waits noted later => exact ⟨_, rfl, later⟩

/-- The rounds from one on are attended like those of a loop that had as many failures in a row
before. -/
theorem Attended.of_mid
    (attended : Attended rules policy failures fuel (before ++ round :: after) closing ended) :
    ∃ more, fuel = before.length + (more + 1) ∧
      Attended rules policy (tally failures before) (more + 1) (round :: after) closing ended := by
  induction before generalizing failures fuel with
  | nil =>
    cases fuel with
    | zero => cases attended
    | succ more => exact ⟨more, by simp, attended⟩
  | cons first before ih =>
    obtain ⟨later, rfl, goes⟩ := attended.tail (.inl (by simp))
    obtain ⟨more, rfl, rest⟩ := ih goes
    refine ⟨more, ?_, rest⟩
    simp only [List.length_cons]
    omega

theorem Attended.obeys
    (attended : Attended rules policy failures fuel (round :: after) closing ended) :
    round.Obeys rules policy failures := by
  cases attended with
  | succeeded runs later => exact .succeeded runs
  | gaveUp runs ends noted => exact .gaveUp runs ends noted
  | left runs goes noted => exact .waited runs goes noted none
  | waited runs goes noted later => exact .waited runs goes noted (some ())

/-- A failure that ends the attempts is the last thing that happens. -/
theorem Attended.stops
    (attended : Attended rules policy failures fuel (round :: after) closing ended)
    (failed : round.outcome = some (.error fault)) (ends : policy.Ends fault (failures + 1)) :
    after = [] ∧ closing = [] ∧ ended = some (.error fault) := by
  cases attended with
  | succeeded runs later => cases failed
  | gaveUp runs ends noted =>
    cases failed
    exact ⟨rfl, rfl, rfl⟩
  | left runs goes noted =>
    cases failed
    exact absurd ends goes
  | waited runs goes noted later =>
    cases failed
    exact absurd ends goes

/-- After a success the loop goes on as if there had been no failure. -/
theorem Attended.renewed {more : Nat}
    (attended : Attended rules policy failures (more + 1) (round :: after) closing ended)
    (succeeded : round.outcome = some (.ok report)) :
    Attended rules policy 0 more after closing ended := by
  have unfailed : round.failed = false := by rw [Round.failed, succeeded]
  obtain ⟨_, ⟨⟩, later⟩ := attended.tail (.inr unfailed)
  simpa [unfailed] using later

/-- A loop that gives up does so with the fault of its last round, which ends the attempts. -/
theorem Attended.last
    (attended : Attended rules policy failures fuel rounds closing (some (.error fault))) :
    ∃ before round, rounds = before ++ [round] ∧ closing = [] ∧
      round.outcome = some (.error fault) ∧ policy.Ends fault (tally failures before + 1) := by
  generalize gives : some (Except.error fault) = ended at attended
  induction attended with
  | exhausted failures => cases gives
  | dropped runs noted => cases gives
  | succeeded runs later ih =>
    obtain ⟨before, round, rfl, closed, failed, ends⟩ := ih gives
    exact ⟨_ :: before, round, rfl, closed, failed, ends⟩
  | gaveUp runs ends noted =>
    cases gives
    exact ⟨[], _, rfl, rfl, rfl, ends⟩
  | left runs goes noted => cases gives
  | waited runs goes noted later ih =>
    obtain ⟨before, round, rfl, closed, failed, ends⟩ := ih gives
    exact ⟨_ :: before, round, rfl, closed, failed, ends⟩

theorem mem_asked_cons {event : Event relaying} (member : event ∈ asked rounds ++ closing) :
    event ∈ asked (round :: rounds) ++ closing := by
  rw [asked_cons, List.append_assoc]
  exact List.mem_append_right _ member

theorem Attended.told
    (attended : Attended rules policy failures fuel rounds closing (some (.ok ()))) :
    ∃ event ∈ asked rounds ++ closing, event.reply = none := by
  generalize well : some (Except.ok ()) = ended at attended
  induction attended with
  | exhausted failures => cases well
  | dropped runs noted =>
    obtain ⟨event, member, unanswered⟩ := runs.unanswered
    exact ⟨event, by simp [member], unanswered⟩
  | succeeded runs later ih =>
    obtain ⟨event, member, unanswered⟩ := ih well
    exact ⟨event, mem_asked_cons member, unanswered⟩
  | gaveUp runs ends noted => cases well
  | @left failures fuel body fault runs goes noted =>
    have left : ∃ event ∈ pausing (policy.schedule.delay failures) none, event.reply = none :=
      ⟨_, List.mem_singleton_self _, rfl⟩
    obtain ⟨event, member, unanswered⟩ := left
    refine ⟨event, ?_, unanswered⟩
    simp [Round.events, failing, member]
  | waited runs goes noted later ih =>
    obtain ⟨event, member, unanswered⟩ := ih well
    exact ⟨event, mem_asked_cons member, unanswered⟩

/-- A loop that has not ended has used up its fuel, one iteration a round. -/
theorem Attended.length_eq (attended : Attended rules policy failures fuel rounds closing none) :
    rounds.length = fuel ∧ closing = [] := by
  generalize unended : (none : Option (Except Fault Unit)) = ended at attended
  induction attended with
  | exhausted failures => exact ⟨rfl, rfl⟩
  | succeeded runs later ih =>
    obtain ⟨length, closed⟩ := ih unended
    exact ⟨congrArg (· + 1) length, closed⟩
  | waited runs goes noted later ih =>
    obtain ⟨length, closed⟩ := ih unended
    exact ⟨congrArg (· + 1) length, closed⟩
  | _ => cases unended

theorem advance_asks (rules : Rules) :
    (advance rules).run.Asks (I := relaying) (·.fails = false) := by
  refine Action.asks_bind ⟨rfl, fun _ => trivial⟩ fun height => ?_
  refine Action.asks_bind ⟨rfl, fun _ => trivial⟩ fun _ => ?_
  refine Action.asks_bind ((Node.resolve_searches _ _ _).mono Call.fails_of_searches) fun node => ?_
  refine Action.asks_bind ((scan_searches _ _ _).mono Call.fails_of_searches) fun link => ?_
  refine Action.asks_bind trivial fun task => ?_
  refine Action.asks_bind ⟨rfl, fun _ => trivial⟩ fun reply => ?_
  refine Action.asks_bind trivial fun result => ?_
  refine Action.asks_bind ⟨rfl, fun _ => trivial⟩ fun _ => ?_
  refine Action.asks_bind ⟨rfl, fun _ => trivial⟩ fun committed => ?_
  refine Action.asks_bind ⟨rfl, fun _ => trivial⟩ fun _ => ?_
  exact Action.asks_bind ⟨rfl, fun _ => trivial⟩ fun _ => trivial

theorem iterate_asks (rules : Rules) :
    (iterate rules).run.Asks (I := relaying) (·.fails = false) := by
  refine Action.asks_bind ⟨rfl, fun _ => trivial⟩ fun _ => ?_
  refine Action.asks_bind (Program.Asks.bind (advance_asks rules) fun _ => trivial) fun ended => ?_
  exact Action.asks_bind ⟨rfl, fun _ => trivial⟩ fun _ => trivial

/-- An iteration that came to its end has noted last that it is no longer busy. -/
theorem iterate_ended {result : Except Fault Report}
    (run : (iterate rules).run.Runs body (some result)) :
    ∃ front, body = front ++ [⟨.note (.working false), some ()⟩] := by
  obtain ⟨_, rfl, run₁⟩ := Action.note_bind_ended run
  obtain ⟨_, advancing, _, rfl, -, run₂⟩ := Action.runs_outcome_bind run₁
  obtain ⟨_, rfl, run₃⟩ := Action.note_bind_ended run₂
  obtain ⟨rfl, -⟩ := Action.lift_runs run₃
  exact ⟨_ :: advancing, rfl⟩

theorem countP_fails {outcome : Option (Except Fault Report)}
    (run : (iterate rules).run.Runs body outcome) : body.countP (·.call.fails) = 0 := by
  apply List.countP_eq_zero.mpr
  intro event member
  rw [(iterate_asks rules).mem run event member]
  exact Bool.false_ne_true

/-- A round notes its failure once, and nothing else as one. -/
theorem Round.Obeys.countP_fails (obeys : round.Obeys rules policy failures) :
    round.events.countP (·.call.fails) = if round.failed then 1 else 0 := by
  cases obeys with
  | succeeded runs =>
    rw [Round.events, List.countP_append, Epoch.countP_fails runs]
    rfl
  | gaveUp runs ends noted =>
    rw [Round.events, List.countP_append, Epoch.countP_fails runs]
    rfl
  | waited runs goes noted reply =>
    rw [Round.events, List.countP_append, Epoch.countP_fails runs]
    rfl

theorem Round.Obeys.countP_asked (obeys : round.Obeys rules policy failures) :
    (asked (round :: rounds) ++ closing).countP (·.call.fails) =
      (asked rounds ++ closing).countP (·.call.fails) + if round.failed then 1 else 0 := by
  rw [asked_cons, List.append_assoc, List.countP_append, obeys.countP_fails, Nat.add_comm]

theorem Attended.countP_fails
    (attended : Attended rules policy failures fuel rounds closing ended) :
    (asked rounds ++ closing).countP (·.call.fails) = rounds.countP Round.failed := by
  induction attended with
  | exhausted failures => rfl
  | dropped runs noted =>
    rw [asked_nil, List.nil_append, List.countP_append, Epoch.countP_fails runs]
    rfl
  | @succeeded failures fuel body closing rounds report ended runs later ih =>
    have obeys : Round.Obeys rules policy failures ⟨body, some (.ok report), []⟩ := .succeeded runs
    rw [obeys.countP_asked, ih, List.countP_cons]
  | gaveUp runs ends noted =>
    rw [(Round.Obeys.gaveUp runs ends noted).countP_asked, List.countP_cons]
    rfl
  | left runs goes noted =>
    rw [(Round.Obeys.waited runs goes noted none).countP_asked, List.countP_cons]
    rfl
  | waited runs goes noted later ih =>
    rw [(Round.Obeys.waited runs goes noted (some ())).countP_asked, ih, List.countP_cons]

theorem Round.Obeys.idle (obeys : round.Obeys rules policy failures) (progress : Progress) :
    (round.events.notes.foldl Progress.after progress).busy = false := by
  cases obeys with
  | succeeded runs =>
    obtain ⟨front, rfl⟩ := iterate_ended runs
    simp [Round.events, Call.note?, Progress.after]
  | gaveUp runs ends noted =>
    obtain ⟨front, rfl⟩ := iterate_ended runs
    simp [Round.events, failing, Call.note?, Progress.after]
  | waited runs goes noted reply =>
    obtain ⟨front, rfl⟩ := iterate_ended runs
    simp [Round.events, failing, pausing, Call.note?, Progress.after]

/-- Between its rounds, and after the last, the loop is not busy. -/
theorem Attended.idle (attended : Attended rules policy failures fuel rounds closing ended)
    {progress : Progress} (idle : progress.busy = false) :
    ((asked rounds ++ closing : Trace relaying).notes.foldl Progress.after progress).busy =
      false := by
  induction attended generalizing progress with
  | exhausted failures => exact idle
  | dropped runs noted => simp [Call.note?, Progress.after]
  | @succeeded failures fuel body closing rounds report ended runs later ih =>
    have obeys : Round.Obeys rules policy failures ⟨body, some (.ok report), []⟩ := .succeeded runs
    rw [asked_cons, List.append_assoc, Trace.notes_append, List.foldl_append]
    exact ih (obeys.idle progress)
  | gaveUp runs ends noted => simpa using (Round.Obeys.gaveUp runs ends noted).idle progress
  | left runs goes noted => simpa using (Round.Obeys.waited runs goes noted none).idle progress
  | waited runs goes noted later ih =>
    rw [asked_cons, List.append_assoc, Trace.notes_append, List.foldl_append]
    exact ih ((Round.Obeys.waited runs goes noted (some ())).idle progress)

/-- How the loop persists in a round between others: the failures in a row before it decide what it
does, a failure that ends the attempts is the last thing that happens and the outcome, and after a
success the rest is a run of the loop from its start. -/
structure Round.Persists (rules : Rules) (policy : Policy) (fuel : Nat) (before : List Round)
    (round : Round) (after : List Round) (closing : Trace relaying)
    (ended : Option (Except Fault Unit)) : Prop where
  obeys : round.Obeys rules policy (streak before)
  stops : ∀ fault, round.outcome = some (.error fault) →
    policy.Ends fault (streak before + 1) →
      after = [] ∧ closing = [] ∧ ended = some (.error fault)
  renewed : ∀ report, round.outcome = some (.ok report) →
    (attend rules policy (fuel - (before.length + 1))).Runs
      ((asked after ++ closing).map Event.cancellable) (some ended)

/-- How the loop concludes: it has used up its fuel, or it was told to stop, or its last round
failed with the fault it gives up with. -/
def Concluded (policy : Policy) (fuel : Nat) (rounds : List Round) (closing : Trace relaying) :
    Option (Except Fault Unit) → Prop
  | none => rounds.length = fuel ∧ closing = []
  | some (.ok ()) => ∃ event ∈ asked rounds ++ closing, event.reply = none
  | some (.error fault) => ∃ before round, rounds = before ++ [round] ∧ closing = [] ∧
      round.outcome = some (.error fault) ∧ policy.Ends fault (streak before + 1)

theorem Attended.persists (countable : policy.Countable)
    (attended : Attended rules policy 0 fuel (before ++ round :: after) closing ended) :
    round.Persists rules policy fuel before after closing ended := by
  obtain ⟨more, rfl, rest⟩ := attended.of_mid
  rw [tally_zero] at rest
  refine ⟨rest.obeys, fun fault failed ends => rest.stops failed ends, ?_⟩
  intro report succeeded
  have fuel_left : before.length + (more + 1) - (before.length + 1) = more := by omega
  rw [fuel_left]
  exact (rest.renewed succeeded).runs countable

theorem Attended.concluded (attended : Attended rules policy 0 fuel rounds closing ended) :
    Concluded policy fuel rounds closing ended := by
  rcases ended with _ | fault | ⟨⟩
  · exact attended.length_eq
  · obtain ⟨before, round, same, closed, failed, ends⟩ := attended.last
    rw [tally_zero] at ends
    exact ⟨before, round, same, closed, failed, ends⟩
  · exact attended.told

/-- A policy that tries everything again without limit never gives up. -/
theorem not_ends_of_unlimited (all : policy.scope = .all) (unlimited : policy.maxAttempts = none) :
    ¬ policy.Ends fault failures := by
  rintro (⟨transient, -⟩ | ⟨most, limited, -⟩)
  · rw [all] at transient
    cases transient
  · rw [unlimited] at limited
    cases limited

/-- How long the loop persists, whatever its iterations come to. Its decisions depend on the
failures since the last success alone: it gives up, with that very fault, at the first failure that
ends the attempts, and waits for the next delay of a fresh schedule after every other one; after a
success it goes on like a loop that was just started. It ends well only if it is told to stop, and
unlimited attempts at everything are never given up. The counters of failed iterations add up to
the rounds that failed, and the loop is not busy when it is over, wherever it was told to stop. And
as long as its notes are taken it does what the loop does that nobody tells to stop. -/
theorem attend_persists {told : Trace relaying.cancellable} (countable : policy.Countable)
    (run : (attend rules policy fuel).Runs told (some ended)) :
    ∃ rounds closing, told = (asked rounds ++ closing).map Event.cancellable ∧
      (∀ before round after, rounds = before ++ round :: after →
        round.Persists rules policy fuel before after closing ended) ∧
      Concluded policy fuel rounds closing ended ∧
      (policy.scope = .all → policy.maxAttempts = none → ∀ fault, ended ≠ some (.error fault)) ∧
      failuresCounted (asked rounds ++ closing).notes = rounds.countP Round.failed ∧
      (Progress.ofNotes (asked rounds ++ closing).notes).busy = false ∧
      (Trace.Taken (asked rounds ++ closing) →
        ∃ front last, asked rounds ++ closing = front ++ last ∧
          (loop rules policy fuel).Runs front (undisturbed ended) ∧
          (last = [] ∨ last = [⟨.note (.working false), some ()⟩])) := by
  rw [attend, LoopState.start_eq] at run
  rw [loop, LoopState.start_eq]
  obtain ⟨rounds, closing, rfl, attended⟩ := attendFrom_runs countable run
  refine ⟨rounds, closing, rfl, ?_, attended.concluded, ?_, ?_, attended.idle rfl,
    attended.undisturbed countable⟩
  · rintro before round after rfl
    exact attended.persists countable
  · rintro all unlimited fault rfl
    obtain ⟨before, round, -, -, -, ends⟩ := attended.last
    exact not_ends_of_unlimited all unlimited ends
  · rw [failuresCounted_notes]
    exact attended.countP_fails

/-- Two attempts in all, five seconds apart. -/
def twice : Policy := ⟨.all, .standard, some 2⟩

/-- An iteration that cannot read the checkpoint, and the pause after it. -/
def unread (pause : Trace relaying) : Trace relaying :=
  ⟨.note (.working true), some ()⟩ ::
    ⟨.checkpoint, some (.error ⟨.ledger, "timeout"⟩)⟩ ::
    ⟨.note (.working false), some ()⟩ ::
    failing ⟨.ledger, "timeout"⟩ (some ()) pause

/-- A loop that fails, succeeds and then fails twice in a row. -/
def thirdFailure : Trace relaying :=
  unread (pausing 5000000000 (some ())) ++ foreignReply ++
    unread (pausing 5000000000 (some ())) ++ unread []

theorem attend_persists_thirdFailure :
    twice.Countable ∧
    (attend ⟨⟨1, 3⟩, ⟨1, 1⟩⟩ twice 9).Runs (thirdFailure.map Event.cancellable)
      (some (some (.error ⟨.ledger, "timeout"⟩))) ∧
    ∃ rounds, thirdFailure = asked rounds ∧ rounds.countP Round.failed = 3 ∧
      (∀ before round after, rounds = before ++ round :: after →
        round.Persists ⟨⟨1, 3⟩, ⟨1, 1⟩⟩ twice 9 before after []
          (some (.error ⟨.ledger, "timeout"⟩))) ∧
      (Progress.ofNotes thirdFailure.notes).busy = false := by
  have countable : twice.Countable := by
    intro most limited
    cases limited
    decide
  have run : (attend ⟨⟨1, 3⟩, ⟨1, 1⟩⟩ twice 9).Runs (thirdFailure.map Event.cancellable)
      (some (some (.error ⟨.ledger, "timeout"⟩))) :=
    Program.runs_of_replay? (by decide +kernel)
  obtain ⟨rounds, closing, same, persists, concluded, -, counted, idle, -⟩ :=
    attend_persists countable run
  obtain ⟨-, -, -, rfl, -⟩ := concluded
  have all := (List.map_inj_right Event.cancellable_inj).mp same
  rw [← all] at counted idle
  have three : failuresCounted thirdFailure.notes = 3 := rfl
  rw [List.append_nil] at all
  exact ⟨countable, run, rounds, all, counted.symm.trans three, persists, idle⟩

end Epoch

end HeaderRelay
