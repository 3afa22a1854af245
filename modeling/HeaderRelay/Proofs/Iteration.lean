import HeaderRelay.Proofs.Boundary
import HeaderRelay.Proofs.Register

set_option autoImplicit false

namespace HeaderRelay

/-- Whether a question has an epoch proved or writes a checkpoint. -/
def Call.decides : Call → Bool
  | .prove _ | .commit _ _ _ => true
  | _ => false

/-- Whether a question only takes a note. -/
def Call.notes : Call → Bool
  | .note _ => true
  | _ => false

theorem Call.decides_of_looks (call : Call) (looks : call.looks = true) :
    call.decides = false := by
  cases call <;> first | rfl | cases looks

theorem Call.decides_of_notes (call : Call) (notes : call.notes = true) :
    call.decides = false := by
  cases call <;> first | rfl | cases notes

theorem Call.commits_of_decides (call : Call) (idle : call.decides = false) :
    call.commits = false := by
  cases call <;> first | rfl | cases idle

section Rows

variable {trace : Trace relaying}

theorem idles_of_looks (looks : ∀ event ∈ trace, event.call.looks = true) :
    ∀ event ∈ trace, event.call.decides = false :=
  fun event member => event.call.decides_of_looks (looks event member)

theorem idles_of_notes (notes : ∀ event ∈ trace, event.call.notes = true) :
    ∀ event ∈ trace, event.call.decides = false :=
  fun event member => event.call.decides_of_notes (notes event member)

theorem commits_of_idles (idles : ∀ event ∈ trace, event.call.decides = false) :
    ∀ event ∈ trace, event.call.commits = false :=
  fun event member => event.call.commits_of_decides (idles event member)

end Rows

namespace Epoch

/-- An iteration up to its task: the checkpoint and the task of the next epoch. -/
def prepare (rules : Rules) : Action (Nat × EpochTask) := do
  let height ← Action.checkpoint
  Action.note (.checkpointRead height)
  let node ← Node.resolve rules.retention none (some height)
  let link ← scan rules.search node height
  let task ← Action.lift (EpochTask.build link)
  return (height, task)

/-- The end of an iteration, after its commit. -/
def confirm (height : Nat) (task : EpochTask) : Action Report := do
  let committed ← Action.checkpoint
  Action.note (.checkpointRead committed)
  Action.note (.committed committed)
  return ⟨height, committed, task⟩

def conclude (height : Nat) (task : EpochTask) : Action Report := do
  let reply ← Action.prove task
  let result ← Action.lift (accept height reply)
  Action.commit result.previousBlock result.block result.height
  confirm height task

theorem advance_eq (rules : Rules) :
    advance rules = (prepare rules >>= fun found => conclude found.1 found.2) := by
  simp only [advance, prepare, conclude, confirm, bind_assoc, pure_bind]

/-- The questions of an iteration up to its task: the checkpoint was read, a node chosen for it,
the boundary after it found there, and the task built from the link. -/
inductive Ready (rules : Rules) (height : Nat) (task : EpochTask) : Trace relaying → Prop
  | intro {node : Endpoint} {link : EpochLink} {choosing scanning : Trace relaying}
      (chosen : (Node.resolve rules.retention none (some height)).run.Runs choosing
        (some (.ok node)))
      (scanned : (scan rules.search node height).run.Runs scanning (some (.ok link)))
      (built : EpochTask.build link = .ok task) :
      Ready rules height task (⟨.checkpoint, some (.ok height)⟩ ::
        ⟨.note (.checkpointRead height), some ()⟩ :: (choosing ++ scanning))

inductive Course (rules : Rules) : Trace relaying → Option (Except Fault Report) → Prop
  /-- It comes to no task. -/
  | idle {trace : Trace relaying} {outcome : Option (Except Fault Report)}
      (idles : ∀ event ∈ trace, event.call.decides = false)
      (unfinished : ∀ report, outcome ≠ some (.ok report)) : Course rules trace outcome
  /-- It has a task, but no proof that it accepts. -/
  | unproved {height : Nat} {task : EpochTask} {opening before after : Trace relaying}
      {outcome : Option (Except Fault Report)} (opens : ∀ event ∈ opening, event.call.notes = true)
      (ready : Ready rules height task before) (reply : Option (Except Fault EpochResult))
      (idles : ∀ event ∈ after, event.call.decides = false)
      (unfinished : ∀ report, outcome ≠ some (.ok report)) :
      Course rules (opening ++ (before ++ ⟨.prove task, reply⟩ :: after)) outcome
  /-- It has a proof that it accepts, and commits what the prover reported. -/
  | committed {height : Nat} {task : EpochTask} {result : EpochResult}
      {opening before after : Trace relaying} {outcome : Option (Except Fault Report)}
      (opens : ∀ event ∈ opening, event.call.notes = true)
      (ready : Ready rules height task before) (proved : result.status = .ok)
      (rises : height < result.height) (reply : Option (Except Fault Unit))
      (idles : ∀ event ∈ after, event.call.decides = false)
      (finished : ∀ report, outcome = some (.ok report) → reply = some (.ok ()) ∧
        report.previous = height ∧
        ∃ noted, after = ⟨.checkpoint, some (.ok report.committed)⟩ :: noted) :
      Course rules (opening ++ (before ++ ⟨.prove task, some (.ok result)⟩ ::
        ⟨.commit result.previousBlock result.block result.height, reply⟩ :: after)) outcome

/-- All that an iteration can do from its task on. A failure is a fault, or a question that was
never answered. -/
inductive Conclusion (height : Nat) (task : EpochTask) :
    Trace relaying → Option (Except Fault Report) → Prop
  /-- The prover does not reply. -/
  | unproved (failure : Option Fault) :
      Conclusion height task [⟨.prove task, failure.map .error⟩] (failure.map .error)
  /-- The reply is not accepted. -/
  | rejected {result : EpochResult} {fault : Fault}
      (rejects : accept height result = .error fault) :
      Conclusion height task [⟨.prove task, some (.ok result)⟩] (some (.error fault))
  /-- The reply is accepted, but the commit fails. -/
  | uncommitted {result : EpochResult} (accepts : accept height result = .ok result)
      (failure : Option Fault) :
      Conclusion height task [⟨.prove task, some (.ok result)⟩,
        ⟨.commit result.previousBlock result.block result.height, failure.map .error⟩]
        (failure.map .error)
  /-- The commit succeeds, but the checkpoint cannot be read again. -/
  | unread {result : EpochResult} (accepts : accept height result = .ok result)
      (failure : Option Fault) :
      Conclusion height task [⟨.prove task, some (.ok result)⟩,
        ⟨.commit result.previousBlock result.block result.height, some (.ok ())⟩,
        ⟨.checkpoint, failure.map .error⟩] (failure.map .error)
  /-- The checkpoint was read again, and only notes are left to take. -/
  | reread {result : EpochResult} (accepts : accept height result = .ok result)
      {committed : Nat} {noted : Trace relaying} {outcome : Option (Except Fault Report)}
      (notes : ∀ event ∈ noted, event.call.notes = true)
      (reports : ∀ ended, outcome = some ended → ended = .ok ⟨height, committed, task⟩) :
      Conclusion height task (⟨.prove task, some (.ok result)⟩ ::
        ⟨.commit result.previousBlock result.block result.height, some (.ok ())⟩ ::
        ⟨.checkpoint, some (.ok committed)⟩ :: noted) outcome

variable {rules : Rules} {height : Nat} {task : EpochTask} {trace : Trace relaying}
  {outcome : Option (Except Fault Report)}

theorem accept_eq_ok {reply result : EpochResult} (accepted : accept height reply = .ok result) :
    result = reply ∧ reply.status = .ok ∧ height < reply.height := by
  unfold accept at accepted
  split at accepted
  · cases accepted
  · split at accepted
    · cases accepted
    · rename_i proved rises
      cases accepted
      exact ⟨rfl, not_not.mp proved, Nat.lt_of_not_le rises⟩

theorem prepare_asks (rules : Rules) :
    (prepare rules).run.Asks (I := relaying) (·.decides = false) := by
  refine Action.asks_bind ⟨rfl, fun _ => trivial⟩ fun height => ?_
  refine Action.asks_bind ⟨rfl, fun _ => trivial⟩ fun _ => ?_
  refine Action.asks_bind ((Node.resolve_asks _ _ _).mono Call.decides_of_looks) fun node => ?_
  refine Action.asks_bind ((scan_asks _ _ _).mono Call.decides_of_looks) fun link => ?_
  exact Action.asks_bind trivial fun _ => trivial

theorem Ready.idles (ready : Ready rules height task trace) :
    ∀ event ∈ trace, event.call.decides = false := by
  cases ready with
  | intro chosen scanned built =>
    have choosing := idles_of_looks ((Node.resolve_asks _ _ _).mem chosen)
    have scanning := idles_of_looks ((scan_asks _ _ _).mem scanned)
    rw [List.forall_mem_cons, List.forall_mem_cons, List.forall_mem_append]
    exact ⟨rfl, rfl, choosing, scanning⟩

theorem prepare_runs
    (run : (prepare rules).run.Runs trace (some (.ok (height, task)))) :
    Ready rules height task trace := by
  obtain ⟨read, _, _, rfl, asked, run₁⟩ := Action.runs_bind_ok run
  obtain rfl := Program.runs_query asked
  obtain ⟨_, _, _, rfl, noted, run₂⟩ := Action.runs_bind_ok run₁
  obtain ⟨node, choosing, _, rfl, chosen, run₃⟩ := Action.runs_bind_ok run₂
  obtain ⟨link, scanning, _, rfl, scanned, run₄⟩ := Action.runs_bind_ok run₃
  obtain ⟨built, _, _, rfl, lifted, run₅⟩ := Action.runs_bind_ok run₄
  obtain ⟨rfl, same⟩ := Action.lift_runs lifted
  obtain ⟨rfl, ended⟩ := Action.pure_runs run₅
  cases ended
  rcases Action.note_runs noted with ⟨impossible, _⟩ | ⟨_, rfl⟩
  · cases impossible
  · simp only [List.append_nil, List.singleton_append]
    exact .intro chosen scanned (Option.some.inj same).symm

/-- The end of an iteration reports the checkpoint that is read after the commit. -/
theorem confirm_runs (run : (confirm height task).run.Runs trace outcome) :
    (∃ failure : Option Fault, trace = [⟨.checkpoint, failure.map .error⟩] ∧
      outcome = failure.map .error) ∨
    ∃ committed noted, trace = ⟨.checkpoint, some (.ok committed)⟩ :: noted ∧
      (∀ event ∈ noted, event.call.notes = true) ∧
      ∀ ended, outcome = some ended → ended = .ok ⟨height, committed, task⟩ := by
  rcases Action.question_bind_runs run Program.runs_query with
    failed | ⟨committed, noted, rfl, run₁⟩
  · exact .inl failed
  refine .inr ⟨committed, noted, rfl, ?_⟩
  rcases Action.note_bind_runs run₁ with ⟨rfl, rfl⟩ | ⟨_, rfl, run₂⟩
  · exact ⟨List.forall_mem_singleton.mpr rfl, fun _ impossible => nomatch impossible⟩
  rcases Action.note_bind_runs run₂ with ⟨rfl, rfl⟩ | ⟨_, rfl, run₃⟩
  · refine ⟨?_, fun _ impossible => nomatch impossible⟩
    exact List.forall_mem_cons.mpr ⟨rfl, List.forall_mem_singleton.mpr rfl⟩
  · obtain ⟨rfl, rfl⟩ := Action.pure_runs run₃
    refine ⟨List.forall_mem_cons.mpr ⟨rfl, List.forall_mem_singleton.mpr rfl⟩, ?_⟩
    rintro ended ⟨⟩
    rfl

theorem conclude_cases (run : (conclude height task).run.Runs trace outcome) :
    Conclusion height task trace outcome := by
  rcases Action.question_bind_runs run Program.runs_query with
    ⟨failure, rfl, rfl⟩ | ⟨reply, _, rfl, run₁⟩
  · exact .unproved failure
  rcases Action.lift_bind_runs run₁ with ⟨fault, rejects, rfl, rfl⟩ | ⟨result, accepts, run₂⟩
  · exact .rejected rejects
  obtain ⟨rfl, -⟩ := accept_eq_ok accepts
  rcases Action.question_bind_runs run₂ Program.runs_query with
    ⟨failure, rfl, rfl⟩ | ⟨_, _, rfl, run₃⟩
  · exact .uncommitted accepts failure
  rcases confirm_runs run₃ with ⟨failure, rfl, rfl⟩ | ⟨committed, noted, rfl, notes, reports⟩
  · exact .unread accepts failure
  · exact .reread accepts notes reports

theorem advance_cases (run : (advance rules).run.Runs trace outcome) :
    ((∀ event ∈ trace, event.call.decides = false) ∧ ∀ report, outcome ≠ some (.ok report)) ∨
    ∃ height task asked rest, trace = asked ++ rest ∧ Ready rules height task asked ∧
      Conclusion height task rest outcome := by
  rw [advance_eq] at run
  rcases Action.runs_bind_of_asks (prepare_asks rules) run with
    ⟨⟨height, task⟩, asked, rest, rfl, prepared, concluded⟩ | idle
  · exact .inr ⟨height, task, asked, rest, rfl, prepare_runs prepared, conclude_cases concluded⟩
  · exact .inl idle

/-- An iteration advances the checkpoint between two notes, unless it is broken off at one. -/
theorem iterate_body (run : (iterate rules).run.Runs trace outcome) :
    ((∀ event ∈ trace, event.call.notes = true) ∧ outcome = none) ∨
    ∃ opening body closing inner, trace = opening ++ (body ++ closing) ∧
      (∀ event ∈ opening, event.call.notes = true) ∧
      (∀ event ∈ closing, event.call.notes = true) ∧ (advance rules).run.Runs body inner ∧
      ∀ ended, outcome = some ended → inner = some ended := by
  have single (n : Note) (reply : Option Unit) :
      ∀ event ∈ ([⟨.note n, reply⟩] : Trace relaying), event.call.notes = true :=
    List.forall_mem_singleton.mpr rfl
  rcases Action.note_bind_runs run with ⟨rfl, rfl⟩ | ⟨_, rfl, run₁⟩
  · exact .inl ⟨single _ _, rfl⟩
  rcases Action.runs_bind run₁ with
    ⟨ended, body, _, rfl, advanced, run₂⟩ | ⟨fault, rfl, advanced⟩ | ⟨rfl, advanced⟩
  · rcases Action.outcome_runs advanced with ⟨inner, same, body⟩ | ⟨impossible, _⟩
    · cases same
      rcases Action.note_bind_runs run₂ with ⟨rfl, rfl⟩ | ⟨_, rfl, run₃⟩
      · exact .inr ⟨_, _, _, _, rfl, single (.working true) _, single _ _, body,
          fun _ impossible => nomatch impossible⟩
      · obtain ⟨rfl, rfl⟩ := Action.lift_runs run₃
        exact .inr ⟨_, _, _, _, rfl, single (.working true) _, single _ _, body, fun _ => id⟩
    · cases impossible
  · rcases Action.outcome_runs advanced with ⟨_, impossible, _⟩ | ⟨impossible, _⟩ <;>
      cases impossible
  · rcases Action.outcome_runs advanced with ⟨_, impossible, _⟩ | ⟨_, body⟩
    · cases impossible
    · exact .inr ⟨_, _, [], none, congrArg (_ :: ·) (List.append_nil _).symm,
        single (.working true) _, List.forall_mem_nil _, body,
        fun _ impossible => nomatch impossible⟩

/-- An iteration comes to no task, or it has one and brings it to a conclusion. -/
theorem iterate_cases (run : (iterate rules).run.Runs trace outcome) :
    ((∀ event ∈ trace, event.call.decides = false) ∧ ∀ report, outcome ≠ some (.ok report)) ∨
    ∃ height task opening asked rest closing inner,
      trace = opening ++ (asked ++ (rest ++ closing)) ∧
      (∀ event ∈ opening, event.call.notes = true) ∧
      (∀ event ∈ closing, event.call.notes = true) ∧ Ready rules height task asked ∧
      Conclusion height task rest inner ∧ ∀ ended, outcome = some ended → inner = some ended := by
  rcases iterate_body run with
    ⟨notes, rfl⟩ | ⟨opening, body, closing, inner, rfl, opens, closes, advanced, same⟩
  · exact .inl ⟨idles_of_notes notes, fun report impossible => nomatch impossible⟩
  rcases advance_cases advanced with
    ⟨idles, unfinished⟩ | ⟨height, task, asked, rest, rfl, ready, concluded⟩
  · refine .inl ⟨?_, fun report ok => unfinished report (same _ ok)⟩
    simp only [List.forall_mem_append]
    exact ⟨idles_of_notes opens, idles, idles_of_notes closes⟩
  · exact .inr ⟨height, task, opening, asked, rest, closing, inner,
      by rw [List.append_assoc], opens, closes, ready, concluded, same⟩

/-- Every run of an iteration, also one that is broken off. -/
theorem iterate_runs (run : (iterate rules).run.Runs trace outcome) :
    Course rules trace outcome := by
  rcases iterate_cases run with ⟨idles, unfinished⟩ |
    ⟨height, task, opening, asked, rest, closing, inner, rfl, opens, closes, ready, concluded, same⟩
  · exact .idle idles unfinished
  have closing := idles_of_notes closes
  have failed (failure : Option Fault) (same : ∀ ended, outcome = some ended →
      failure.map Except.error = some ended) (report : Report) : outcome ≠ some (.ok report) := by
    intro ok
    have impossible := same _ ok
    cases failure <;> cases impossible
  cases concluded with
  | unproved failure => exact .unproved opens ready _ closing (failed failure same)
  | rejected rejects =>
    exact .unproved opens ready _ closing (failed (some _) same)
  | uncommitted accepts failure =>
    obtain ⟨-, proved, rises⟩ := accept_eq_ok accepts
    exact .committed opens ready proved rises _ closing
      fun report ok => absurd ok (failed failure same report)
  | unread accepts failure =>
    obtain ⟨-, proved, rises⟩ := accept_eq_ok accepts
    exact .committed opens ready proved rises _ (List.forall_mem_cons.mpr ⟨rfl, closing⟩)
      fun report ok => absurd ok (failed failure same report)
  | reread accepts notes reports =>
    obtain ⟨-, proved, rises⟩ := accept_eq_ok accepts
    refine .committed opens ready proved rises _ (List.forall_mem_cons.mpr
      ⟨rfl, List.forall_mem_append.mpr ⟨idles_of_notes notes, closing⟩⟩) fun report ok => ?_
    cases reports _ (same _ ok)
    exact ⟨rfl, rfl, _, rfl⟩

end Epoch

end HeaderRelay
