import HeaderRelay.Proofs.Acceptance

/-
What an iteration that fails leaves behind, where a commit that fails stores nothing. The contract
is as it was, and the next iteration asks for the same proof, but for one kind of failure: when the
commit succeeds and only the checkpoint cannot be read again, the iteration fails although its
checkpoint is stored, and the next one starts from there.
-/

set_option autoImplicit false

namespace HeaderRelay

/-- Whether a question has stored a checkpoint, where a commit that fails stores none. -/
def Event.stores : Event relaying → Bool
  | ⟨.commit _ _ _, some (.ok ())⟩ => true
  | _ => false

theorem Event.commits_of_stores {event : Event relaying} (idle : event.call.commits = false) :
    event.stores = false := by
  unfold Event.stores
  split
  · cases idle
  · rfl

namespace Register

variable {register : Register} {trace first second : Trace relaying} {event : Event relaying}

/-- The contract after a question, where a commit that fails stores nothing. -/
def after (register : Register) : Event relaying → Register
  | ⟨.commit previous current height, some (.ok ())⟩ =>
      register.store ⟨height, previous, current⟩
  | _ => register

/-- The contract after a row of questions. -/
def afterAll (register : Register) (trace : Trace relaying) : Register :=
  trace.foldl after register

/-- Every read in a row of questions that did not fail gave what the contract held by then. -/
def Consistent : Register → Trace relaying → Prop
  | _, [] => True
  | register, event :: trace =>
      register.answers event = true ∧ (register.after event).Consistent trace

instance decidableConsistent :
    (register : Register) → (trace : Trace relaying) → Decidable (register.Consistent trace)
  | _, [] => .isTrue trivial
  | register, event :: trace =>
      have := decidableConsistent (register.after event) trace
      inferInstanceAs (Decidable (_ ∧ _))

theorem after_of_not_stores (idle : event.stores = false) : register.after event = register := by
  unfold after
  split
  · cases idle
  · rfl

theorem afterAll_of_not_stores (idle : ∀ event ∈ trace, event.stores = false) :
    register.afterAll trace = register := by
  induction trace with
  | nil => rfl
  | cons event trace ih =>
    obtain ⟨now, later⟩ := List.forall_mem_cons.mp idle
    rw [afterAll, List.foldl_cons, after_of_not_stores now]
    exact ih later

theorem afterAll_append :
    register.afterAll (first ++ second) = (register.afterAll first).afterAll second :=
  List.foldl_append

/-- A contract on which failed commits store nothing is one where they may store. -/
theorem Turn.of_answers (answers : register.answers event = true) :
    ∃ stored, register.Turn event stored (register.after event) := by
  unfold after
  split
  · rename_i previous current height
    exact ⟨_, .stored ⟨height, previous, current⟩ _⟩
  · rename_i failed
    obtain ⟨call, reply⟩ := event
    cases call with
    | commit previous current height =>
      refine ⟨[], .lost ⟨height, previous, current⟩ reply fun ok => ?_⟩
      exact failed previous current height (congrArg (Event.mk _) ok)
    | _ => exact ⟨[], .read rfl answers⟩

theorem Consistent.follows (consistent : register.Consistent trace) :
    ∃ stored, register.Follows trace stored (register.afterAll trace) := by
  induction trace generalizing register with
  | nil => exact ⟨[], .nil register⟩
  | cons event trace ih =>
    obtain ⟨stored, turn⟩ := Turn.of_answers consistent.1
    obtain ⟨later, rest⟩ := ih consistent.2
    exact ⟨stored ++ later, .cons turn rest⟩

/-- Up to the first commit all reads give what the contract held at the start. -/
theorem Consistent.answers (consistent : register.Consistent (first ++ second))
    (reads : ∀ event ∈ first, event.call.commits = false) :
    ∀ event ∈ first, register.answers event = true := by
  obtain ⟨_, follows⟩ := consistent.follows
  obtain ⟨_, _, _, -, front, -⟩ := follows.append
  exact (front.of_reads reads).2.2

end Register

namespace Epoch

variable {rules : Rules} {height : Nat} {task : EpochTask} {trace later : Trace relaying}
  {register : Register} {fault : Fault} {outcome : Option (Except Fault Report)}

/-- A commit succeeded, but the checkpoint could not be read again right after it. -/
def RereadFailed (trace : Trace relaying) : Prop :=
  ∃ before previous current height fault after,
    trace = before ++ ⟨.commit previous current height, some (.ok ())⟩ ::
      ⟨.checkpoint, some (.error fault)⟩ :: after

/-- Every checkpoint that is read before a commit is at a height. -/
def StartsFrom (height : Nat) (trace : Trace relaying) : Prop :=
  ∀ before read after, trace = before ++ ⟨.checkpoint, some (.ok read)⟩ :: after →
    (∀ event ∈ before, event.call.commits = false) → read = height

theorem startsFrom_of_consistent (consistent : register.Consistent trace) :
    StartsFrom register.checkpoint trace := by
  rintro before read after rfl reads
  rw [List.append_cons] at consistent
  have answers := consistent.answers
    (List.forall_mem_append.mpr ⟨reads, List.forall_mem_singleton.mpr rfl⟩)
  exact Register.answers_checkpoint (answers _ List.mem_concat_self)

theorem RereadFailed.stores (failed : RereadFailed trace) :
    ∃ event ∈ trace, event.stores = true := by
  obtain ⟨before, previous, current, height, fault, after, rfl⟩ := failed
  exact ⟨_, List.mem_append_right before List.mem_cons_self, rfl⟩

theorem stores_of_idles (idles : ∀ event ∈ trace, event.call.decides = false) :
    ∀ event ∈ trace, event.stores = false :=
  fun event member => Event.commits_of_stores (commits_of_idles idles event member)

/-- A conclusion that fails has stored nothing, or it is only that the checkpoint could not be
read again. -/
theorem Conclusion.failed (concluded : Conclusion height task trace (some (.error fault))) :
    (∀ event ∈ trace, event.stores = false) ∨
    ∃ result, accept height result = .ok result ∧
      trace = [⟨.prove task, some (.ok result)⟩,
        ⟨.commit result.previousBlock result.block result.height, some (.ok ())⟩,
        ⟨.checkpoint, some (.error fault)⟩] := by
  generalize ended : some (Except.error fault) = outcome at concluded
  cases concluded with
  | unproved failure => exact .inl (List.forall_mem_singleton.mpr rfl)
  | rejected rejects => exact .inl (List.forall_mem_singleton.mpr rfl)
  | uncommitted accepts failure =>
    cases failure with
    | none => cases ended
    | some failure =>
      exact .inl (List.forall_mem_cons.mpr ⟨rfl, List.forall_mem_singleton.mpr rfl⟩)
  | unread accepts failure =>
    cases failure with
    | none => cases ended
    | some failure =>
      cases ended
      exact .inr ⟨_, accepts, rfl⟩
  | reread accepts notes reports => cases reports _ ended.symm

/-- An iteration that fails has stored nothing, or it has stored a greater checkpoint than it read
and only could not read it again. -/
theorem iterate_failed (run : (iterate rules).run.Runs trace (some (.error fault))) :
    (∀ event ∈ trace, event.stores = false) ∨
    ∃ before read task link result closing,
      trace = before ++ ⟨.prove task, some (.ok result)⟩ ::
        ⟨.commit result.previousBlock result.block result.height, some (.ok ())⟩ ::
        ⟨.checkpoint, some (.error fault)⟩ :: closing ∧
      DrawnUp rules read link task before ∧ read < result.height ∧
      (∀ event ∈ before, event.call.decides = false) ∧
      ∀ event ∈ closing, event.call.decides = false := by
  rcases iterate_cases run with ⟨idles, -⟩ |
    ⟨height, task, opening, asked, rest, closing, inner, rfl, opens, closes, ready, concluded, same⟩
  · exact .inl (stores_of_idles idles)
  have opens' := idles_of_notes opens
  have closes' := idles_of_notes closes
  rw [same _ rfl] at concluded
  rcases concluded.failed with none | ⟨result, accepts, rfl⟩
  · refine .inl (List.forall_mem_append.mpr ⟨stores_of_idles opens', ?_⟩)
    refine List.forall_mem_append.mpr ⟨stores_of_idles ready.idles, ?_⟩
    exact List.forall_mem_append.mpr ⟨none, stores_of_idles closes'⟩
  · obtain ⟨-, -, rises⟩ := accept_eq_ok accepts
    obtain ⟨link, drawnUp⟩ := ready.drawnUp opens
    exact .inr ⟨opening ++ asked, height, task, link, result, closing,
      (List.append_assoc ..).symm, drawnUp, rises,
      List.forall_mem_append.mpr ⟨opens', ready.idles⟩, closes'⟩

theorem DrawnUp.height_eq {link : EpochLink} {before after : Trace relaying} {start : Nat}
    (drawnUp : DrawnUp rules height link task before)
    (starts : StartsFrom start (before ++ after)) : height = start := by
  obtain ⟨node, opening, choosing, scanning, rfl, opens, -⟩ := drawnUp
  rw [List.append_assoc, List.cons_append] at starts
  exact starts opening height _ rfl (commits_of_idles (idles_of_notes opens))

/-- A failed iteration has left the contract as it was, unless it is the new checkpoint that could
not be read again. -/
theorem iterate_error_stores (run : (iterate rules).run.Runs trace (some (.error fault)))
    (consistent : register.Consistent trace) :
    (register.afterAll trace = register ∧ ¬ RereadFailed trace) ∨
      (register.checkpoint < (register.afterAll trace).checkpoint ∧ RereadFailed trace) := by
  rcases iterate_failed run with
    none | ⟨before, read, task, link, result, closing, rfl, drawnUp, rises, idles, idles'⟩
  · refine .inl ⟨Register.afterAll_of_not_stores none, fun failed => ?_⟩
    obtain ⟨event, member, stores⟩ := failed.stores
    cases (none event member).symm.trans stores
  · refine .inr ⟨?_, before ++ [⟨.prove task, some (.ok result)⟩], _, _, _, _, _,
      List.append_cons ..⟩
    have stored : register.afterAll (before ++ ⟨.prove task, some (.ok result)⟩ ::
        ⟨.commit result.previousBlock result.block result.height, some (.ok ())⟩ ::
        ⟨.checkpoint, some (.error fault)⟩ :: closing) =
        register.store ⟨result.height, result.previousBlock, result.block⟩ := by
      rw [Register.afterAll_append, Register.afterAll_of_not_stores (stores_of_idles idles)]
      exact Register.afterAll_of_not_stores (stores_of_idles idles')
    obtain rfl := drawnUp.height_eq (startsFrom_of_consistent consistent)
    rw [stored]
    exact rises

/-- Two iterations that hear the same answers ask for the same proof. -/
theorem iterate_same_task {outcome' : Option (Except Fault Report)}
    {before after before' after' : Trace relaying} {task' : EpochTask}
    {reply reply' : Option (Except Fault EpochResult)}
    (run : (iterate rules).run.Runs (before ++ ⟨.prove task, reply⟩ :: after) outcome)
    (run' : (iterate rules).run.Runs (before' ++ ⟨.prove task', reply'⟩ :: after') outcome')
    (unchanged : before.Unchanged before') : before = before' ∧ task = task' := by
  have quiet {trace rest : Trace relaying} {task : EpochTask}
      {reply : Option (Except Fault EpochResult)} {outcome : Option (Except Fault Report)}
      (run : (iterate rules).run.Runs (trace ++ ⟨.prove task, reply⟩ :: rest) outcome) :
      ∀ event ∈ trace, event.call.proves = false := by
    obtain ⟨_, opening, asked, _, _, _, rfl, -, opens, -, ready, -⟩ := iterate_prove run
    intro event member
    apply event.call.proves_of_decides
    exact List.forall_mem_append.mpr ⟨idles_of_notes opens, ready.idles⟩ event member
  obtain ⟨rfl, same⟩ := Program.runs_agree Call.proves run run' (quiet run) (quiet run') rfl rfl
    unchanged
  exact ⟨rfl, Call.prove.inj same⟩

/-- An iteration that fails can be retried: the contract is as it was, and the next iteration
starts from the checkpoint that it holds, and asks for the same proof where it hears the same. The
one exception is a commit that succeeded before the checkpoint could not be read again. -/
theorem iterate_error_resumes (run : (iterate rules).run.Runs trace (some (.error fault)))
    (consistent : register.Consistent trace) :
    (register.afterAll trace = register ↔ ¬ RereadFailed trace) ∧
    (RereadFailed trace → register.checkpoint < (register.afterAll trace).checkpoint) ∧
    ∀ later outcome, (iterate rules).run.Runs later outcome →
      (register.afterAll trace).Consistent later →
      StartsFrom (register.afterAll trace).checkpoint later ∧
      ∀ before task reply after before' task' reply' after',
        trace = before ++ ⟨.prove task, reply⟩ :: after →
        later = before' ++ ⟨.prove task', reply'⟩ :: after' → before.Unchanged before' →
        task' = task ∧ ∃ link, DrawnUp rules register.checkpoint link task before := by
  have left := iterate_error_stores run consistent
  refine ⟨?_, ?_, fun later outcome again consistent' =>
    ⟨startsFrom_of_consistent consistent', ?_⟩⟩
  · rcases left with ⟨same, read⟩ | ⟨rises, failed⟩
    · exact ⟨fun _ => read, fun _ => same⟩
    · refine ⟨fun same => ?_, fun read => absurd failed read⟩
      rw [same] at rises
      exact absurd rises (Nat.lt_irrefl _)
  · rcases left with ⟨-, read⟩ | ⟨rises, -⟩
    · exact fun failed => absurd failed read
    · exact fun _ => rises
  · rintro before task reply after before' task' reply' after' rfl rfl unchanged
    obtain ⟨rfl, rfl⟩ := iterate_same_task run again unchanged
    obtain ⟨_, opening, asked, _, _, _, rfl, -, opens, -, ready, -⟩ := iterate_prove run
    obtain ⟨link, drawnUp⟩ := ready.drawnUp opens
    obtain rfl := drawnUp.height_eq (startsFrom_of_consistent consistent)
    exact ⟨rfl, link, drawnUp⟩

def proofFails : Trace relaying :=
  towardsSix ++ [⟨.prove taskToSix, some (.error ⟨.prover, "down"⟩)⟩,
    ⟨.note (.working false), some ()⟩]

def rereadFails : Trace relaying :=
  towardsSix ++ [⟨.prove taskToSix, some (.ok ⟨"H6", "H5", 6, .ok⟩)⟩,
    ⟨.commit "H5" "H6" 6, some (.ok ())⟩,
    ⟨.checkpoint, some (.error ⟨.ledger, "timeout"⟩)⟩,
    ⟨.note (.working false), some ()⟩]

/-- A failed iteration has moved the checkpoint. -/
theorem failed_reread_moves_checkpoint :
    (iterate ⟨⟨1, 3⟩, ⟨1, 1⟩⟩).run.Runs rereadFails (some (.error ⟨.ledger, "timeout"⟩)) ∧
    atFive.Consistent rereadFails ∧ atFive.checkpoint = 5 ∧
    (atFive.afterAll rereadFails).checkpoint = 6 :=
  ⟨Program.runs_of_replay? rfl, by decide, rfl, rfl⟩

theorem iterate_error_resumes_proofFails :
    (iterate ⟨⟨1, 3⟩, ⟨1, 1⟩⟩).run.Runs proofFails (some (.error ⟨.prover, "down"⟩)) ∧
    atFive.Consistent proofFails ∧
    atFive.afterAll proofFails = atFive ∧ ¬ RereadFailed proofFails ∧
    StartsFrom (atFive.afterAll proofFails).checkpoint rereadFails ∧
    ∃ link, DrawnUp ⟨⟨1, 3⟩, ⟨1, 1⟩⟩ 5 link taskToSix towardsSix := by
  have run : (iterate ⟨⟨1, 3⟩, ⟨1, 1⟩⟩).run.Runs proofFails
    (some (.error ⟨.prover, "down"⟩)) := Program.runs_of_replay? rfl
  have consistent : atFive.Consistent proofFails := by decide
  obtain ⟨unchanged, -, resumes⟩ := iterate_error_resumes run consistent
  obtain ⟨starts, same⟩ := resumes rereadFails _ (Program.runs_of_replay? rfl)
    (show (atFive.afterAll proofFails).Consistent rereadFails by decide)
  obtain ⟨-, drawnUp⟩ := same towardsSix taskToSix _ _ towardsSix taskToSix _ _ rfl rfl
    fun i event event' first second _ => Option.some.inj (first.symm.trans second)
  exact ⟨run, consistent, rfl, unchanged.mp rfl, starts, drawnUp⟩

end Epoch

end HeaderRelay
