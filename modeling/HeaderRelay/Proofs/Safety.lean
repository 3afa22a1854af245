import HeaderRelay.Epoch.Loop
import HeaderRelay.Proofs.Iteration
import HeaderRelay.Proofs.Lists

set_option autoImplicit false

namespace HeaderRelay

def Call.pauses : Call → Bool
  | .wait _ | .note _ => true
  | _ => false

theorem Call.decides_of_pauses (call : Call) (pauses : call.pauses = true) :
    call.decides = false := by
  cases call <;> first | rfl | cases pauses

namespace Epoch

/-- One iteration of the loop, and the pause after it. -/
structure Round where
  trace : Trace relaying
  outcome : Option (Except Fault Report)
  pause : Trace relaying

def Round.events (round : Round) : Trace relaying := round.trace ++ round.pause

/-- A round is a run of an iteration, and a pause in which nothing is asked. -/
structure Round.Sound (rules : Rules) (round : Round) : Prop where
  runs : (iterate rules).run.Runs round.trace round.outcome
  pauses : ∀ event ∈ round.pause, event.call.pauses = true

/-- What stands before a commit in its iteration: the boundary after the checkpoint that was read
was found, its task proved, and the commit is what the prover reported. -/
def Justified (rules : Rules) (before : Trace relaying) (previous current : String)
    (height : Nat) : Prop :=
  ∃ read task result opening asked,
    before = opening ++ (asked ++ [⟨.prove task, some (.ok result)⟩]) ∧
    (∀ event ∈ opening, event.call.notes = true) ∧ Ready rules read task asked ∧
    result.status = .ok ∧ read < height ∧ previous = result.previousBlock ∧
    current = result.block ∧ height = result.height

/-- What an iteration may do to the checkpoint. -/
structure Round.Safe (rules : Rules) (round : Round) : Prop where
  single : round.trace.countP (·.call.commits) ≤ 1
  justified : ∀ before previous current height reply after,
    round.trace = before ++ ⟨.commit previous current height, reply⟩ :: after →
      Justified rules before previous current height
  advances : ∀ report, round.outcome = some (.ok report) → report.previous < report.committed ∧
    ∃ previous current,
      ⟨.commit previous current report.committed, some (.ok ())⟩ ∈ round.trace

variable {rules : Rules} {policy : Retry.Policy} {fuel : Nat} {state : LoopState}
  {trace : Trace relaying} {register last : Register} {stored : List Checkpoint}

theorem noteFailure_asks {α : Type} (outcome : Except Fault α) :
    (noteFailure outcome).Asks (I := relaying) (Call.pauses · = true) := by
  cases outcome with
  | ok a => trivial
  | error fault => exact ⟨rfl, fun _ => trivial⟩

/-- What the loop does after an iteration. -/
def resume (rules : Rules) (policy : Retry.Policy) (fuel : Nat) (state : LoopState)
    (ended : Except Fault Report) : Relay (Option Fault) := do
  noteFailure ended
  match state.after policy ended with
  | (state, .proceed) => loopFrom rules policy fuel state
  | (state, .pause delay) => do
      let _ ← Program.query (I := relaying) (.wait delay)
      loopFrom rules policy fuel state
  | (_, .stop fault) => return some fault

theorem loopFrom_succ : loopFrom rules policy (fuel + 1) state =
    (iterate rules).run.bind (resume rules policy fuel state) :=
  rfl

/-- After an iteration the loop pauses, and then goes on or is over. -/
theorem resume_runs {ended : Except Fault Report} {outcome : Option (Option Fault)}
    (run : (resume rules policy fuel state ended).Runs trace outcome) :
    ∃ pause later, trace = pause ++ later ∧ (∀ event ∈ pause, event.call.pauses = true) ∧
      (later = [] ∨ ∃ state, (loopFrom rules policy fuel state).Runs later outcome) := by
  have waits (delay : Nat) (reply : Option Unit) :
      ∀ event ∈ ([⟨.wait delay, reply⟩] : Trace relaying), event.call.pauses = true :=
    List.forall_mem_singleton.mpr rfl
  rcases Program.runs_bind run with ⟨_, noted, _, rfl, failed, run₁⟩ | ⟨rfl, failed⟩
  · have pauses := (noteFailure_asks ended).mem failed
    split at run₁
    · exact ⟨noted, _, rfl, pauses, .inr ⟨_, run₁⟩⟩
    · rcases Program.runs_bind run₁ with ⟨_, _, later, rfl, asked, run₂⟩ | ⟨rfl, asked⟩
      · obtain rfl := Program.runs_query asked
        exact ⟨noted ++ [_], later, (List.append_assoc ..).symm,
          List.forall_mem_append.mpr ⟨pauses, waits _ _⟩, .inr ⟨_, run₂⟩⟩
      · obtain rfl := Program.runs_query asked
        exact ⟨noted ++ [_], [], (List.append_nil _).symm,
          List.forall_mem_append.mpr ⟨pauses, waits _ _⟩, .inl rfl⟩
    · obtain ⟨rfl, _⟩ := Program.runs_done run₁
      exact ⟨noted, [], rfl, pauses, .inl rfl⟩
  · exact ⟨trace, [], (List.append_nil _).symm, (noteFailure_asks ended).mem failed, .inl rfl⟩

theorem loopFrom_runs {outcome : Option (Option Fault)}
    (run : (loopFrom rules policy fuel state).Runs trace outcome) :
    ∃ rounds : List Round, trace = (rounds.map Round.events).flatten ∧
      ∀ round ∈ rounds, round.Sound rules := by
  induction fuel generalizing state trace with
  | zero =>
    obtain ⟨rfl, _⟩ := Program.runs_done run
    exact ⟨[], rfl, List.forall_mem_nil _⟩
  | succ fuel ih =>
    rw [loopFrom_succ] at run
    rcases Program.runs_bind run with ⟨ended, body, _, rfl, iterated, run₁⟩ | ⟨rfl, iterated⟩
    · obtain ⟨pause, later, rfl, pauses, finished | ⟨state, again⟩⟩ := resume_runs run₁
      · subst finished
        refine ⟨[⟨body, some ended, pause⟩], ?_, List.forall_mem_singleton.mpr ⟨iterated, pauses⟩⟩
        simp only [Round.events, List.map_cons, List.map_nil, List.flatten_cons,
          List.flatten_nil, List.append_nil]
      · obtain ⟨rounds, rfl, sound⟩ := ih again
        refine ⟨⟨body, some ended, pause⟩ :: rounds, ?_,
          List.forall_mem_cons.mpr ⟨⟨iterated, pauses⟩, sound⟩⟩
        simp only [Round.events, List.map_cons, List.flatten_cons, List.append_assoc]
    · refine ⟨[⟨trace, none, []⟩], ?_,
        List.forall_mem_singleton.mpr ⟨iterated, List.forall_mem_nil _⟩⟩
      simp only [Round.events, List.map_cons, List.map_nil, List.flatten_cons,
        List.flatten_nil, List.append_nil]

/-- What an iteration does, as far as commits go: it makes none and ends without a report, or it
makes one that is justified. -/
theorem Course.commit {outcome : Option (Except Fault Report)}
    (course : Course rules trace outcome) :
    ((∀ event ∈ trace, event.call.commits = false) ∧ ∀ report, outcome ≠ some (.ok report)) ∨
    ∃ before previous current height reply after,
      trace = before ++ ⟨.commit previous current height, reply⟩ :: after ∧
      (∀ event ∈ before, event.call.commits = false) ∧
      (∀ event ∈ after, event.call.commits = false) ∧
      Justified rules before previous current height ∧
      ∀ report, outcome = some (.ok report) → reply = some (.ok ()) ∧
        ⟨.checkpoint, some (.ok report.previous)⟩ ∈ before ∧
        ⟨.checkpoint, some (.ok report.committed)⟩ ∈ after := by
  cases course with
  | idle idles unfinished => exact .inl ⟨commits_of_idles idles, unfinished⟩
  | unproved opens ready reply idles unfinished =>
    refine .inl ⟨?_, unfinished⟩
    rw [List.forall_mem_append, List.forall_mem_append, List.forall_mem_cons]
    exact ⟨commits_of_idles (idles_of_notes opens), commits_of_idles ready.idles, rfl,
      commits_of_idles idles⟩
  | committed opens ready proved rises reply idles finished =>
    rename_i height task result opening asked after
    refine .inr ⟨opening ++ (asked ++ [⟨.prove task, some (.ok result)⟩]), _, _, _, reply, after,
      ?_, ?_, commits_of_idles idles, ⟨height, task, result, opening, asked, rfl, opens, ready,
        proved, rises, rfl, rfl, rfl⟩, ?_⟩
    · simp only [List.append_assoc, List.cons_append, List.nil_append]
    · rw [List.forall_mem_append, List.forall_mem_append, List.forall_mem_singleton]
      exact ⟨commits_of_idles (idles_of_notes opens), commits_of_idles ready.idles, rfl⟩
    · intro report ok
      obtain ⟨succeeded, rfl, _, rfl⟩ := finished report ok
      refine ⟨succeeded, ?_, List.mem_cons_self⟩
      cases ready
      exact List.mem_append_right _ List.mem_cons_self

theorem Justified.read {before : Trace relaying} {previous current : String} {height : Nat}
    (justified : Justified rules before previous current height) :
    ∃ read, ⟨.checkpoint, some (.ok read)⟩ ∈ before ∧ read < height := by
  obtain ⟨read, task, result, opening, asked, rfl, _, ready, _, rises, _⟩ := justified
  refine ⟨read, ?_, rises⟩
  cases ready
  exact List.mem_append_right _ List.mem_cons_self

/-- A justified commit is above the checkpoint, if what was read before it is what the contract
holds. -/
theorem Justified.above {before : Trace relaying} {previous current : String} {height : Nat}
    (justified : Justified rules before previous current height)
    (answers : ∀ event ∈ before, register.answers event = true) :
    register.checkpoint < height := by
  obtain ⟨read, asked, rises⟩ := justified.read
  have held : read = register.checkpoint := Register.answers_checkpoint (answers _ asked)
  rw [← held]
  exact rises

variable {round : Round}

theorem Round.Sound.pause_idles (sound : round.Sound rules) :
    ∀ event ∈ round.pause, event.call.decides = false :=
  fun event member => event.call.decides_of_pauses (sound.pauses event member)

/-- Nothing happens to the contract in the pause after an iteration. -/
theorem Round.Sound.body (sound : round.Sound rules)
    (follows : register.Follows round.events stored last) :
    register.Follows round.trace stored last := by
  obtain ⟨first, paused, middle, rfl, body, pause⟩ := follows.append
  obtain ⟨rfl, rfl, -⟩ := pause.of_reads (commits_of_idles sound.pause_idles)
  rw [List.append_nil]
  exact body

theorem Round.Sound.single (sound : round.Sound rules) :
    round.trace.countP (·.call.commits) ≤ 1 := by
  rcases (iterate_runs sound.runs).commit with ⟨reads, -⟩ |
    ⟨before, previous, current, height, reply, after, split, reads, reads', -⟩
  · rw [countP_commits reads]
    exact Nat.zero_le 1
  · rw [split, List.countP_append, List.countP_cons_of_pos rfl, countP_commits reads,
      countP_commits reads']

theorem Round.Sound.justified {before after : Trace relaying} {previous current : String}
    {height : Nat} {reply : Option (Except Fault Unit)} (sound : round.Sound rules)
    (split : round.trace = before ++ ⟨.commit previous current height, reply⟩ :: after) :
    Justified rules before previous current height := by
  rcases (iterate_runs sound.runs).commit with ⟨reads, -⟩ |
    ⟨before', previous', current', height', reply', after', split', reads, reads', justified, -⟩
  · have commits := reads _ (split ▸ List.mem_append_right before List.mem_cons_self)
    cases commits
  · obtain ⟨rfl, same, rfl⟩ := cut_unique reads reads' rfl (split'.symm.trans split)
    cases same
    exact justified

/-- A report is of a commit that took effect, above the checkpoint that was read. -/
theorem Round.Sound.advances {report : Report} (sound : round.Sound rules)
    (follows : register.Follows round.events stored last)
    (ok : round.outcome = some (.ok report)) :
    report.previous < report.committed ∧ ∃ previous current,
      ⟨.commit previous current report.committed, some (.ok ())⟩ ∈ round.trace := by
  have body := sound.body follows
  rcases (iterate_runs sound.runs).commit with ⟨-, unfinished⟩ |
    ⟨before, previous, current, height, reply, after, split, reads, reads', justified, finished⟩
  · exact absurd ok (unfinished report)
  · obtain ⟨rfl, readBefore, readAfter⟩ := finished report ok
    rw [split] at body
    obtain ⟨_, _, _, rfl, front, back⟩ := body.append
    obtain ⟨rfl, rfl, answers⟩ := front.of_reads reads
    rcases back.of_commit with ⟨later, rfl, rest⟩ | ⟨lost, _⟩
    · obtain ⟨rfl, rfl, answers'⟩ := rest.of_reads reads'
      have previous_eq := Register.answers_checkpoint (answers _ readBefore)
      have committed_eq : report.committed = height :=
        Register.answers_checkpoint (answers' _ readAfter)
      rw [previous_eq, committed_eq, split]
      exact ⟨justified.above answers, previous, current,
        List.mem_append_right before List.mem_cons_self⟩
    · exact absurd rfl lost

theorem Round.Sound.safe (sound : round.Sound rules)
    (follows : register.Follows round.events stored last) : round.Safe rules where
  single := sound.single
  justified _ _ _ _ _ _ split := sound.justified split
  advances _ ok := sound.advances follows ok

/-- What a round does to the contract: nothing, or it stores one checkpoint above the one that
was there. -/
inductive Step (register : Register) : List Checkpoint → Register → Prop
  | still : Step register [] register
  | rise (c : Checkpoint) (above : register.checkpoint < c.height) :
      Step register [c] (register.store c)

theorem Round.Sound.step (sound : round.Sound rules)
    (follows : register.Follows round.events stored last) : Step register stored last := by
  have body := sound.body follows
  rcases (iterate_runs sound.runs).commit with ⟨reads, -⟩ |
    ⟨before, previous, current, height, reply, after, split, reads, reads', justified, -⟩
  · obtain ⟨rfl, rfl, -⟩ := body.of_reads reads
    exact .still
  · rw [split] at body
    obtain ⟨_, _, _, rfl, front, back⟩ := body.append
    obtain ⟨rfl, rfl, answers⟩ := front.of_reads reads
    -- The commit may have failed, and then it took effect all the same or it did not.
    rcases back.of_commit with ⟨later, rfl, rest⟩ | ⟨-, rest⟩
    · obtain ⟨rfl, rfl, -⟩ := rest.of_reads reads'
      exact .rise _ (justified.above answers)
    · obtain ⟨rfl, rfl, -⟩ := rest.of_reads reads'
      exact .still

theorem rounds_safe {rounds : List Round} (sound : ∀ round ∈ rounds, round.Sound rules)
    (follows : register.Follows (rounds.map Round.events).flatten stored last) :
    (∀ round ∈ rounds, round.Safe rules) ∧
      (register.checkpoint :: stored.map Checkpoint.height).IsChain (· < ·) := by
  induction rounds generalizing register stored with
  | nil =>
    cases follows
    exact ⟨List.forall_mem_nil _, .singleton _⟩
  | cons round rounds ih =>
    obtain ⟨first, later, middle, rfl, front, back⟩ := follows.append
    obtain ⟨soundRound, soundRounds⟩ := List.forall_mem_cons.mp sound
    obtain ⟨safes, rises⟩ := ih soundRounds back
    refine ⟨List.forall_mem_cons.mpr ⟨soundRound.safe front, safes⟩, ?_⟩
    cases soundRound.step front with
    | still => exact rises
    | rise c above => exact .cons_cons above rises

/-- The checkpoint is safe, whatever the nodes and the prover answer. The checkpoints that are
stored rise; the contract never goes back; the loop runs in rounds that each make at most one
commit, justified by what it read, found and had proved; and a report is of a checkpoint that was
just committed, above the one before. -/
theorem loop_checkpoint_safe {outcome : Option (Option Fault)}
    (run : (loop rules policy fuel).Runs trace outcome)
    (follows : register.Follows trace stored last) :
    (register.checkpoint :: stored.map Checkpoint.height).Pairwise (· < ·) ∧
    (∀ first between rest s₁ s₂ s₃ r₁ r₂ r₃, trace = first ++ (between ++ rest) →
      register.Follows first s₁ r₁ → r₁.Follows between s₂ r₂ → r₂.Follows rest s₃ r₃ →
      r₁.checkpoint ≤ r₂.checkpoint) ∧
    ∃ rounds : List Round, trace = (rounds.map Round.events).flatten ∧
      ∀ round ∈ rounds, round.Sound rules ∧ round.Safe rules := by
  obtain ⟨rounds, rfl, sound⟩ := loopFrom_runs run
  have rising {stored : List Checkpoint} {last : Register}
      (follows : register.Follows (rounds.map Round.events).flatten stored last) :
      (register.checkpoint :: stored.map Checkpoint.height).Pairwise (· < ·) :=
    List.isChain_iff_pairwise.mp (rounds_safe sound follows).2
  refine ⟨rising follows, ?_, rounds, rfl, fun round member =>
    ⟨sound round member, (rounds_safe sound follows).1 round member⟩⟩
  intro first between rest s₁ s₂ s₃ r₁ r₂ r₃ split one two three
  have all := rising (split ▸ one.trans (two.trans three))
  rw [List.map_append, List.map_append, ← List.append_assoc] at all
  have front := all.sublist ((List.sublist_append_left _ _).cons_cons _)
  rw [two.checkpoint_eq, one.checkpoint_eq]
  exact getLastD_le_of_rising front

/-- An iteration whose commit takes effect although its receipt is lost, and a second one that is
broken off when it reads the checkpoint. -/
def lostReceipt : Trace relaying :=
  let start : Block := ⟨"H5", 5, "H1", "H3", "H3", 0⟩
  let next : Block := ⟨"H6", 6, "H3", "H5", "H5", 0⟩
  let before : Block := ⟨"H3", 3, "G", "H2", "H1", 0⟩
  [⟨.note (.working true), some ()⟩,
    ⟨.checkpoint, some (.ok 5)⟩,
    ⟨.note (.checkpointRead 5), some ()⟩,
    ⟨.block .primary (.height 5), some (.ok (.found start))⟩,
    ⟨.head .archival, some (.ok 6)⟩,
    ⟨.note (.selected .primary), some ()⟩,
    ⟨.epochHashes 5, some (.ok ⟨"H3", "H5"⟩)⟩,
    ⟨.block .primary (.hash "H5"), some (.ok (.found start))⟩,
    ⟨.note .probed, some ()⟩,
    ⟨.block .primary (.height 5), some (.ok (.found start))⟩,
    ⟨.block .primary (.height 6), some (.ok (.found next))⟩,
    ⟨.block .primary (.hash "H3"), some (.ok (.found before))⟩,
    ⟨.note (.drifted 0), some ()⟩,
    ⟨.prove ⟨"H6", "H5", "H5", "H3", "H1"⟩, some (.ok ⟨"H6", "H5", 6, .ok⟩)⟩,
    ⟨.commit "H5" "H6" 6, some (.error ⟨.ledger, "receipt"⟩)⟩,
    ⟨.note (.working false), some ()⟩,
    ⟨.note (.iterationFailed .ledger), some ()⟩,
    ⟨.wait 5000000000, some ()⟩,
    ⟨.note (.working true), some ()⟩,
    ⟨.checkpoint, none⟩]

def atFive : Register where
  checkpoint := 5
  hashes height := if height = 5 then some ⟨"H3", "H5"⟩ else none

theorem lostReceipt_runs :
    (loop ⟨⟨1, 3⟩, ⟨1, 1⟩⟩ .standard 2).Runs lostReceipt none :=
  Program.runs_of_replay? rfl

theorem lostReceipt_follows :
    atFive.Follows lostReceipt [⟨6, "H5", "H6"⟩] (atFive.store ⟨6, "H5", "H6"⟩) := by
  have before : atFive.Follows (lostReceipt.take 14) [] atFive := .reads (by decide)
  have after : (atFive.store ⟨6, "H5", "H6"⟩).Follows (lostReceipt.drop 15) []
      (atFive.store ⟨6, "H5", "H6"⟩) := .reads (by decide)
  exact before.trans (.cons (.stored ⟨6, "H5", "H6"⟩ (some (.error ⟨.ledger, "receipt"⟩))) after)

theorem loop_checkpoint_safe_lostReceipt :
    (loop ⟨⟨1, 3⟩, ⟨1, 1⟩⟩ .standard 2).Runs lostReceipt none ∧
    atFive.Follows lostReceipt [⟨6, "H5", "H6"⟩] (atFive.store ⟨6, "H5", "H6"⟩) ∧
    [5, 6].Pairwise (· < ·) ∧
    ∃ rounds : List Round, lostReceipt = (rounds.map Round.events).flatten ∧
      ∀ round ∈ rounds, round.Sound ⟨⟨1, 3⟩, ⟨1, 1⟩⟩ ∧ round.Safe ⟨⟨1, 3⟩, ⟨1, 1⟩⟩ := by
  obtain ⟨rises, -, rounds⟩ := loop_checkpoint_safe lostReceipt_runs lostReceipt_follows
  exact ⟨lostReceipt_runs, lostReceipt_follows, rises, rounds⟩

end Epoch

end HeaderRelay
