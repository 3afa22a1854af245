import HeaderRelay.Proofs.Safety

/-
What a reply of the prover leads to. One that reports success and a greater height is committed as
it stands; any other ends the iteration in a fault. No reply is compared with the link that its
task was built from, so the checkpoint is that link only where the prover reports it.
-/

set_option autoImplicit false

namespace HeaderRelay

def Call.proves : Call → Bool
  | .prove _ => true
  | _ => false

theorem Call.proves_of_decides (call : Call) (idle : call.decides = false) :
    call.proves = false := by
  cases call <;> first | rfl | cases idle

namespace Epoch

variable {rules : Rules} {height : Nat} {task : EpochTask} {trace before after : Trace relaying}
  {outcome : Option (Except Fault Report)} {result : EpochResult}

/-- A task was drawn up from a link: a checkpoint was read, a node chosen for it, and the link to
the next epoch found there. -/
def DrawnUp (rules : Rules) (height : Nat) (link : EpochLink) (task : EpochTask)
    (trace : Trace relaying) : Prop :=
  ∃ node opening choosing scanning,
    trace = opening ++ (⟨.checkpoint, some (.ok height)⟩ ::
      ⟨.note (.checkpointRead height), some ()⟩ :: (choosing ++ scanning)) ∧
    (∀ event ∈ opening, event.call.notes = true) ∧
    (Node.resolve rules.retention none (some height)).run.Runs choosing (some (.ok node)) ∧
    (scan rules.search node height).run.Runs scanning (some (.ok link)) ∧
    EpochTask.build link = .ok task

theorem Ready.drawnUp {opening asked : Trace relaying} (ready : Ready rules height task asked)
    (opens : ∀ event ∈ opening, event.call.notes = true) :
    ∃ link, DrawnUp rules height link task (opening ++ asked) := by
  cases ready with
  | intro chosen scanned built =>
    exact ⟨_, _, opening, _, _, rfl, opens, chosen, scanned, built⟩

theorem accept_eq_error {reply : EpochResult} {fault : Fault}
    (rejected : accept height reply = .error fault) :
    ¬ (reply.status = .ok ∧ height < reply.height) ∧ fault.kind = .prover := by
  unfold accept at rejected
  split at rejected
  · rename_i failed
    cases rejected
    exact ⟨fun proved => failed proved.1, rfl⟩
  · split at rejected
    · rename_i stale
      cases rejected
      exact ⟨fun proved => Nat.not_lt_of_le stale proved.2, rfl⟩
    · cases rejected

/-- A conclusion begins with the only proof that it asks for. -/
theorem Conclusion.prove_first (concluded : Conclusion height task trace outcome) :
    ∃ reply rest, trace = ⟨.prove task, reply⟩ :: rest ∧
      ∀ event ∈ rest, event.call.proves = false := by
  cases concluded with
  | unproved failure => exact ⟨_, [], rfl, List.forall_mem_nil _⟩
  | rejected rejects => exact ⟨_, [], rfl, List.forall_mem_nil _⟩
  | uncommitted accepts failure => exact ⟨_, _, rfl, List.forall_mem_singleton.mpr rfl⟩
  | unread accepts failure =>
    exact ⟨_, _, rfl, List.forall_mem_cons.mpr ⟨rfl, List.forall_mem_singleton.mpr rfl⟩⟩
  | reread accepts notes reports =>
    refine ⟨_, _, rfl, List.forall_mem_cons.mpr ⟨rfl, List.forall_mem_cons.mpr ⟨rfl, ?_⟩⟩⟩
    exact fun event member => event.call.proves_of_decides (idles_of_notes notes event member)

/-- After a reply the conclusion is its commit, if it is accepted, and else a fault. -/
theorem Conclusion.after_reply
    (concluded : Conclusion height task (⟨.prove task, some (.ok result)⟩ :: after) outcome) :
    (accept height result = .ok result ∧ ∃ reply rest,
      after = ⟨.commit result.previousBlock result.block result.height, reply⟩ :: rest ∧
      ∀ event ∈ rest, event.call.commits = false) ∨
    ∃ fault, accept height result = .error fault ∧ after = [] ∧
      outcome = some (.error fault) := by
  generalize same : ⟨.prove task, some (.ok result)⟩ :: after = trace at concluded
  cases concluded with
  | unproved failure => cases failure <;> cases same
  | rejected rejects =>
    cases same
    exact .inr ⟨_, rejects, rfl, rfl⟩
  | uncommitted accepts failure =>
    cases same
    exact .inl ⟨accepts, _, [], rfl, List.forall_mem_nil _⟩
  | unread accepts failure =>
    cases same
    exact .inl ⟨accepts, _, _, rfl, List.forall_mem_singleton.mpr rfl⟩
  | reread accepts notes reports =>
    cases same
    exact .inl ⟨accepts, _, _, rfl, List.forall_mem_cons.mpr
      ⟨rfl, commits_of_idles (idles_of_notes notes)⟩⟩

/-- Where an iteration has an epoch proved, it has its task ready, and brings it to a conclusion
from there. -/
theorem iterate_prove {reply : Option (Except Fault EpochResult)}
    (run : (iterate rules).run.Runs (before ++ ⟨.prove task, reply⟩ :: after) outcome) :
    ∃ height opening asked rest closing inner, before = opening ++ asked ∧
      after = rest ++ closing ∧ (∀ event ∈ opening, event.call.notes = true) ∧
      (∀ event ∈ closing, event.call.notes = true) ∧ Ready rules height task asked ∧
      Conclusion height task (⟨.prove task, reply⟩ :: rest) inner ∧
      ∀ ended, outcome = some ended → inner = some ended := by
  have quiet {trace : Trace relaying} (idles : ∀ event ∈ trace, event.call.decides = false) :
      ∀ event ∈ trace, event.call.proves = false :=
    fun event member => event.call.proves_of_decides (idles event member)
  generalize split : before ++ ⟨.prove task, reply⟩ :: after = trace at run
  rcases iterate_cases run with ⟨idles, -⟩ |
    ⟨height, task', opening, asked, _, closing, inner, rfl, opens, closes, ready, concluded, same⟩
  · have idle := idles _ (split ▸ List.mem_append_right before List.mem_cons_self)
    cases idle
  obtain ⟨reply', rest, rfl, once⟩ := concluded.prove_first
  have front : ∀ event ∈ opening ++ asked, event.call.proves = false :=
    List.forall_mem_append.mpr ⟨quiet (idles_of_notes opens), quiet ready.idles⟩
  have back : ∀ event ∈ rest ++ closing, event.call.proves = false :=
    List.forall_mem_append.mpr ⟨once, quiet (idles_of_notes closes)⟩
  have cut : (opening ++ asked) ++ ⟨.prove task', reply'⟩ :: (rest ++ closing) =
      before ++ ⟨.prove task, reply⟩ :: after := by
    rw [split]
    simp only [List.append_assoc, List.cons_append]
  obtain ⟨rfl, same', rfl⟩ := cut_unique front back rfl cut
  cases same'
  exact ⟨height, opening, asked, rest, closing, inner, rfl, rfl, opens, closes, ready, concluded,
    same⟩

/-- Just before a commit stands the reply that it commits. -/
theorem iterate_commit {previous current : String} {reply : Option (Except Fault Unit)}
    (run : (iterate rules).run.Runs
      (before ++ ⟨.commit previous current height, reply⟩ :: after) outcome) :
    ∃ asked task result, before = asked ++ [⟨.prove task, some (.ok result)⟩] ∧
      previous = result.previousBlock ∧ current = result.block ∧ height = result.height := by
  have sound : Round.Sound rules ⟨_, outcome, []⟩ := ⟨run, List.forall_mem_nil _⟩
  obtain ⟨_, task, result, opening, asked, rfl, -, -, -, -, same⟩ := sound.justified rfl
  exact ⟨opening ++ asked, task, result, (List.append_assoc ..).symm, same⟩

/-- A reply to the task of an iteration is committed if it is accepted, and else nothing is. -/
theorem iterate_reply
    (run : (iterate rules).run.Runs (before ++ ⟨.prove task, some (.ok result)⟩ :: after) outcome) :
    ∃ checkpoint link, DrawnUp rules checkpoint link task before ∧
      ((accept checkpoint result = .ok result ∧ ∃ reply rest,
        after = ⟨.commit result.previousBlock result.block result.height, reply⟩ :: rest ∧
        ∀ event ∈ before ++ rest, event.call.commits = false) ∨
      ((∀ event ∈ before ++ after, event.call.commits = false) ∧
        ∃ fault, accept checkpoint result = .error fault ∧
          ∀ ended, outcome = some ended → ended = .error fault)) := by
  obtain ⟨height, opening, asked, rest, closing, inner, rfl, rfl, opens, closes, ready, concluded,
    same⟩ := iterate_prove run
  obtain ⟨link, drawnUp⟩ := ready.drawnUp opens
  have quiet := commits_of_idles (List.forall_mem_append.mpr ⟨idles_of_notes opens, ready.idles⟩)
  have closed := commits_of_idles (idles_of_notes closes)
  refine ⟨height, link, drawnUp, ?_⟩
  rcases concluded.after_reply with ⟨accepts, reply, rest, rfl, once⟩ | ⟨fault, rejects, rfl, rfl⟩
  · refine .inl ⟨accepts, reply, rest ++ closing, rfl, ?_⟩
    exact List.forall_mem_append.mpr ⟨quiet, List.forall_mem_append.mpr ⟨once, closed⟩⟩
  · refine .inr ⟨List.forall_mem_append.mpr ⟨quiet, closed⟩, fault, rejects, fun ended ok => ?_⟩
    exact (Option.some.inj (same ended ok)).symm

/-- What an iteration commits is a reply to its task just as it was reported, one of success with a
greater height than the checkpoint. Every such reply is committed, whatever else it reports; any
other is a fault of the prover, and nothing is committed. -/
theorem iterate_commits_report (run : (iterate rules).run.Runs trace outcome) :
    (∀ before previous current height reply after,
      trace = before ++ ⟨.commit previous current height, reply⟩ :: after →
      ∃ checkpoint link task result asked,
        before = asked ++ [⟨.prove task, some (.ok result)⟩] ∧
        DrawnUp rules checkpoint link task asked ∧ result.status = .ok ∧
        checkpoint < result.height ∧ previous = result.previousBlock ∧ current = result.block ∧
        height = result.height) ∧
    ∀ before task result after, trace = before ++ ⟨.prove task, some (.ok result)⟩ :: after →
      ∃ checkpoint link, DrawnUp rules checkpoint link task before ∧
        ((result.status = .ok ∧ checkpoint < result.height ∧ ∃ reply rest,
          after = ⟨.commit result.previousBlock result.block result.height, reply⟩ :: rest ∧
          ∀ event ∈ before ++ rest, event.call.commits = false) ∨
        (¬ (result.status = .ok ∧ checkpoint < result.height) ∧
          (∀ event ∈ before ++ after, event.call.commits = false) ∧
          ∃ fault, accept checkpoint result = .error fault ∧ fault.kind = .prover ∧
            ∀ ended, outcome = some ended → ended = .error fault)) := by
  constructor
  · rintro before previous current height reply after rfl
    obtain ⟨asked, task, result, rfl, reported⟩ := iterate_commit run
    rw [List.append_assoc] at run
    obtain ⟨checkpoint, link, drawnUp, ⟨accepts, -⟩ | ⟨none, -⟩⟩ := iterate_reply run
    · obtain ⟨-, proved, rises⟩ := accept_eq_ok accepts
      exact ⟨checkpoint, link, task, result, asked, rfl, drawnUp, proved, rises, reported⟩
    · cases none _ (List.mem_append_right asked List.mem_cons_self)
  · rintro before task result after rfl
    obtain ⟨checkpoint, link, drawnUp, ⟨accepts, committed⟩ | ⟨none, fault, rejects, ends⟩⟩ :=
      iterate_reply run
    · obtain ⟨-, proved, rises⟩ := accept_eq_ok accepts
      exact ⟨checkpoint, link, drawnUp, .inl ⟨proved, rises, committed⟩⟩
    · obtain ⟨unproved, kind⟩ := accept_eq_error rejects
      exact ⟨checkpoint, link, drawnUp, .inr ⟨unproved, none, fault, rejects, kind, ends⟩⟩

/-- The link that is found from the checkpoint at height 5 of a chain with an epoch from 5 to 5. -/
def linkToSix : EpochLink := ⟨"H6", "H5", "H5", "H3", "H1", 6⟩

/-- The task that is drawn up from it. -/
def taskToSix : EpochTask := ⟨"H6", "H5", "H5", "H3", "H1"⟩

def towardsSix : Trace relaying := lostReceipt.take 13

/-- An iteration that is told of another epoch than it asked for, and how it ends. -/
def foreignReply : Trace relaying :=
  towardsSix ++ [⟨.prove taskToSix, some (.ok ⟨"H9", "H8", 9, .ok⟩)⟩,
    ⟨.commit "H8" "H9" 9, some (.ok ())⟩,
    ⟨.checkpoint, some (.ok 9)⟩,
    ⟨.note (.checkpointRead 9), some ()⟩,
    ⟨.note (.committed 9), some ()⟩,
    ⟨.note (.working false), some ()⟩]

theorem towardsSix_drawnUp : DrawnUp ⟨⟨1, 3⟩, ⟨1, 1⟩⟩ 5 linkToSix taskToSix towardsSix := by
  have chosen : (Node.resolve ⟨1, 3⟩ none (some 5)).run.Runs ((towardsSix.drop 3).take 3)
      (some (.ok .primary)) := Program.runs_of_replay? rfl
  have scanned : (scan ⟨1, 1⟩ .primary 5).run.Runs (towardsSix.drop 6) (some (.ok linkToSix)) :=
    Program.runs_of_replay? rfl
  exact ⟨.primary, towardsSix.take 1, _, _, rfl, by decide, chosen, scanned, rfl⟩

/-- A checkpoint that nobody asked to prove is committed. -/
theorem foreign_reply_committed :
    (iterate ⟨⟨1, 3⟩, ⟨1, 1⟩⟩).run.Runs foreignReply (some (.ok ⟨5, 9, taskToSix⟩)) ∧
    DrawnUp ⟨⟨1, 3⟩, ⟨1, 1⟩⟩ 5 linkToSix taskToSix towardsSix ∧
    foreignReply = (towardsSix ++ [⟨.prove taskToSix, some (.ok ⟨"H9", "H8", 9, .ok⟩)⟩]) ++
      ⟨.commit "H8" "H9" 9, some (.ok ())⟩ :: foreignReply.drop 15 ∧
    "H8" ≠ linkToSix.epochEnd ∧ "H9" ≠ linkToSix.currentEpoch ∧ 9 ≠ linkToSix.boundaryHeight :=
  ⟨Program.runs_of_replay? rfl, towardsSix_drawnUp, rfl, by decide, by decide, by decide⟩

theorem iterate_commits_foreignReply :
    (iterate ⟨⟨1, 3⟩, ⟨1, 1⟩⟩).run.Runs foreignReply (some (.ok ⟨5, 9, taskToSix⟩)) ∧
    ∃ checkpoint link, DrawnUp ⟨⟨1, 3⟩, ⟨1, 1⟩⟩ checkpoint link taskToSix towardsSix ∧
      checkpoint < 9 ∧ ∃ rest, foreignReply.drop 14 = ⟨.commit "H8" "H9" 9, some (.ok ())⟩ :: rest ∧
        ∀ event ∈ towardsSix ++ rest, event.call.commits = false := by
  have run : (iterate ⟨⟨1, 3⟩, ⟨1, 1⟩⟩).run.Runs foreignReply (some (.ok ⟨5, 9, taskToSix⟩)) :=
    Program.runs_of_replay? rfl
  obtain ⟨checkpoint, link, drawnUp, ⟨-, rises, reply, rest, split, once⟩ | ⟨-, none, -⟩⟩ :=
    (iterate_commits_report run).2 towardsSix taskToSix _ (foreignReply.drop 14) rfl
  · cases split
    exact ⟨run, checkpoint, link, drawnUp, rises, _, rfl, once⟩
  · cases none ⟨.commit "H8" "H9" 9, some (.ok ())⟩
      (List.mem_append_right towardsSix List.mem_cons_self)

end Epoch

end HeaderRelay
