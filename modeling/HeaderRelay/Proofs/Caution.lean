import HeaderRelay.Proof.Service
import HeaderRelay.Proof.Settlement
import HeaderRelay.Proofs.Interleaving
import HeaderRelay.Proofs.Lists
import HeaderRelay.Proofs.Lookup

set_option autoImplicit false

namespace HeaderRelay

def Call.fetches : Call → Bool
  | .fetch _ => true
  | _ => false

theorem Call.writes_of_looks (call : Call) (looks : call.looks = true) : call.writes = none := by
  cases call <;> first | rfl | cases looks

def Call.WritesOnly (Q : String → ProofStatus → Prop) (call : Call) : Prop :=
  ∀ hash status, call.writes = some (hash, status) → Q hash status

theorem Call.writesOnly_of_none {Q : String → ProofStatus → Prop} {call : Call}
    (none : call.writes = none) : call.WritesOnly Q := by
  intro hash status writes
  rw [none] at writes
  cases writes

theorem Call.writesOnly_of_some {Q : String → ProofStatus → Prop} {call : Call} {hash : String}
    {status : ProofStatus} (writes : call.writes = some (hash, status)) (holds : Q hash status) :
    call.WritesOnly Q := by
  intro hash' status' writes'
  cases writes.symm.trans writes'
  exact holds

namespace Action

variable {α β : Type} {P : Call → Prop}

theorem asks_outcome {a : Action α} (asks : a.run.Asks (I := relaying) P) :
    a.outcome.run.Asks (I := relaying) P :=
  Program.Asks.bind asks fun _ => trivial

/-- A question of another sort than those of the first of two actions is asked by the second. -/
theorem runs_bind_second {a : Action α} {f : α → Action β} {before after : Trace relaying}
    {event : Event relaying} {outcome : Option (Except Fault β)}
    (asks : a.run.Asks (I := relaying) P)
    (run : (a >>= f).run.Runs (before ++ event :: after) outcome) (other : ¬ P event.call) :
    ∃ x first middle, before = first ++ middle ∧ a.run.Runs first (some (.ok x)) ∧
      (f x).run.Runs (middle ++ event :: after) outcome := by
  rcases runs_bind_of_asks asks run with ⟨x, first, second, split, done, rest⟩ | ⟨only, -⟩
  · rcases split_append split with ⟨more, inFirst⟩ | ⟨middle, rfl, rfl⟩
    · rw [inFirst] at done
      exact absurd (asks.mem done event (List.mem_append_right before List.mem_cons_self)) other
    · exact ⟨x, first, middle, rfl, done, rest⟩
  · exact absurd (only event (List.mem_append_right before List.mem_cons_self)) other

end Action

namespace Proof

variable {rules : Epoch.Rules} {block : Block} {node : Endpoint} {before after : Trace relaying}
  {event : Event relaying} {hash : String} {status : ProofStatus}

theorem successorFrom_searches (node : Endpoint) (parent : Block) (count offset : Nat) :
    (Epoch.successorFrom node parent count offset).run.Asks (I := relaying) (·.searches) := by
  induction count generalizing offset with
  | zero => trivial
  | succ count ih =>
    refine Action.asks_bind (Node.produced?_asks rfl) fun found => ?_
    rcases found with _ | candidate
    · exact ih (offset + 1)
    · dsimp only
      split
      · trivial
      · exact ih (offset + 1)

theorem anchors_searches (search : Epoch.Search) (node : Endpoint) (block : Block) :
    (Epoch.anchors search node block).run.Asks (I := relaying) (·.searches) := by
  refine Action.asks_bind (Node.require_asks rfl) fun last => ?_
  refine Action.asks_bind (successorFrom_searches _ _ _ _) fun first => ?_
  cases first <;> trivial

/-- The search for anchors only looks. -/
theorem anchors_asks (search : Epoch.Search) (node : Endpoint) (block : Block) :
    (Epoch.anchors search node block).run.Asks (I := relaying) (·.looks) :=
  (anchors_searches search node block).mono Call.looks_of_searches

theorem finished_asks (block : Block) :
    (do
      let now ← Action.clock
      let record := ProofRecord.ofBlock block .done now
      Action.save record
      return record : Action ProofRecord).run.Asks (I := relaying)
      (Call.WritesOnly fun hash status => hash = block.hash ∧ status = .done) := by
  refine Action.asks_bind ⟨Call.writesOnly_of_none rfl, fun _ => trivial⟩ fun now => ?_
  refine Action.asks_bind ⟨?_, fun _ => trivial⟩ fun _ => trivial
  exact Call.writesOnly_of_some rfl ⟨rfl, rfl⟩

/-- Dispatch writes only the record of its block, and never that it is done. -/
theorem dispatch_asks (rules : Epoch.Rules) (node : Endpoint) (block : Block) :
    (dispatch rules node block).run.Asks (I := relaying)
      (Call.WritesOnly fun hash status => hash = block.hash ∧ status ≠ .done) := by
  refine Action.asks_bind ((anchors_asks _ _ _).mono fun call looks =>
    Call.writesOnly_of_none (call.writes_of_looks looks)) fun anchors => ?_
  refine Action.asks_bind trivial fun task => ?_
  refine Action.asks_bind ⟨Call.writesOnly_of_none rfl, fun _ => trivial⟩ fun now => ?_
  refine Action.asks_bind ⟨?_, fun _ => trivial⟩ fun _ => ?_
  · exact Call.writesOnly_of_some rfl ⟨rfl, ProofStatus.noConfusion⟩
  refine Action.asks_bind
    (Action.asks_outcome ⟨Call.writesOnly_of_none rfl, fun _ => trivial⟩) fun outcome => ?_
  rcases outcome with fault | _
  · refine Action.asks_bind ⟨?_, fun _ => trivial⟩ fun _ => trivial
    exact Call.writesOnly_of_some rfl ⟨rfl, ProofStatus.noConfusion⟩
  · trivial

/-- A request writes a record of a block only after the contract has said whether it holds a proof
of it: the record is done if it does, and is not if it does not. -/
theorem request_writes {outcome : Option (Except Fault ProofRecord)} {asked : String}
    (run : (request rules asked).run.Runs (before ++ event :: after) outcome)
    (writes : event.call.writes = some (hash, status)) :
    ∃ held, ⟨.isProofed hash, some (.ok held)⟩ ∈ before ∧ (held = true ↔ status = .done) := by
  have loud : ¬ event.call.writes = none := by
    rw [writes]
    rintro ⟨⟩
  have quietRequire (node : Endpoint) (id : BlockId) :
      (Node.require node id).run.Asks (I := relaying) (·.writes = none) := Node.require_asks rfl
  have quietIsProofed (hash : String) :
      (Action.isProofed hash).run.Asks (I := relaying) (·.writes = none) :=
    ⟨rfl, fun _ => trivial⟩
  unfold request at run
  dsimp only at run
  split at run
  · have none := (Action.fail_runs run).1
    cases before <;> cases none
  · obtain ⟨node, _, _, rfl, _, run₁⟩ := Action.runs_bind_second
      ((Node.resolve_asks _ _ _).mono Call.writes_of_looks) run loud
    obtain ⟨block, _, _, rfl, _, run₂⟩ := Action.runs_bind_second (quietRequire _ _) run₁ loud
    obtain ⟨held, _, middle, rfl, told, run₃⟩ :=
      Action.runs_bind_second (quietIsProofed _) run₂ loud
    obtain rfl := Program.runs_query told
    have atEvent : event ∈ middle ++ event :: after :=
      List.mem_append_right middle List.mem_cons_self
    have answered : hash = block.hash ∧ (held = true ↔ status = .done) := by
      split at run₃
      · rename_i isHeld
        obtain ⟨same, done⟩ := (finished_asks block).mem run₃ event atEvent hash status writes
        exact ⟨same, fun _ => done, fun _ => isHeld⟩
      · rename_i unheld
        obtain ⟨same, unfinished⟩ :=
          (dispatch_asks rules node block).mem run₃ event atEvent hash status writes
        exact ⟨same, fun isHeld => absurd isHeld unheld, fun done => absurd done unfinished⟩
    obtain ⟨rfl, held_iff⟩ := answered
    exact ⟨held, List.mem_append_right _ (List.mem_append_right _ List.mem_cons_self), held_iff⟩

/-- What the settlement of results has seen before it writes a record: a record that is not done,
in its latest look-up, and for the status done that the contract accepted the proof. -/
def Seen (results : List ProvingResult) (hash : String) (status : ProofStatus)
    (before : Trace relaying) : Prop :=
  ∃ record front back, before = front ++ ⟨.fetch hash, some (.ok (some record))⟩ :: back ∧
    record.status ≠ .done ∧ (∀ event ∈ back, event.call.fetches = false) ∧
    (status = .done → ∃ result, .block result ∈ results ∧ result.status = .ok ∧
      result.block = hash ∧ ⟨.submit result.journal result.proof, some (.ok ())⟩ ∈ back)

theorem Seen.mono {results more : List ProvingResult} (seen : Seen results hash status before)
    (sub : ∀ result ∈ results, result ∈ more) : Seen more hash status before := by
  obtain ⟨record, front, back, rfl, unfinished, latest, accepted⟩ := seen
  refine ⟨record, front, back, rfl, unfinished, latest, fun done => ?_⟩
  obtain ⟨result, member, rest⟩ := accepted done
  exact ⟨result, sub _ member, rest⟩

theorem Seen.append {results : List ProvingResult} (seen : Seen results hash status before)
    (earlier : Trace relaying) : Seen results hash status (earlier ++ before) := by
  obtain ⟨record, front, back, rfl, rest⟩ := seen
  exact ⟨record, earlier ++ front, back, (List.append_assoc ..).symm, rest⟩

theorem submission_runs_done {result : BlockResult} {trace : Trace relaying}
    (run : (submission result).run.Runs trace (some (.ok .done))) :
    ⟨.submit result.journal result.proof, some (.ok ())⟩ ∈ trace := by
  obtain ⟨ended, _, _, rfl, submitted, run₁⟩ := Action.runs_bind_ok run
  rcases Action.outcome_runs submitted with ⟨r, same, asked⟩ | ⟨impossible, _⟩
  · cases same
    obtain rfl := Program.runs_query asked
    cases ended with
    | ok _ => exact List.mem_append_left _ List.mem_cons_self
    | error fault =>
      obtain ⟨_, _, _, _, _, run₂⟩ := Action.runs_bind_ok run₁
      cases (Action.pure_runs run₂).2
  · cases impossible

theorem verdict_runs_done {result : ProvingResult} {trace : Trace relaying}
    (run : (verdict result).run.Runs trace (some (.ok (some .done)))) :
    ∃ proof, result = .block proof ∧ proof.status = .ok ∧
      ⟨.submit proof.journal proof.proof, some (.ok ())⟩ ∈ trace := by
  unfold verdict at run
  split at run
  · rename_i proof succeeded
    obtain ⟨status, _, _, rfl, submitted, run₁⟩ := Action.runs_bind_ok run
    obtain ⟨rfl, same⟩ := Action.pure_runs run₁
    cases same
    exact ⟨proof, rfl, succeeded, List.mem_append_left _ (submission_runs_done submitted)⟩
  · cases (Action.pure_runs run).2
  · cases (Action.pure_runs run).2

/-- A verdict only submits a proof, and notes whether it was accepted. -/
theorem verdict_asks_of {P : Call → Prop} (submits : ∀ journal proof, P (.submit journal proof))
    (notes : ∀ accepted, P (.note (.submitted accepted))) (result : ProvingResult) :
    (verdict result).run.Asks (I := relaying) P := by
  unfold verdict
  split
  · refine Action.asks_bind ?_ fun _ => trivial
    refine Action.asks_bind (Action.asks_outcome ⟨submits _ _, fun _ => trivial⟩) fun outcome => ?_
    cases outcome with
    | ok _ => exact Action.asks_bind ⟨notes true, fun _ => trivial⟩ fun _ => trivial
    | error _ => exact Action.asks_bind ⟨notes false, fun _ => trivial⟩ fun _ => trivial
  · trivial
  · trivial

theorem verdict_asks (result : ProvingResult) :
    (verdict result).run.Asks (I := relaying)
      (fun call => call.writes = none ∧ call.fetches = false) :=
  verdict_asks_of (fun _ _ => ⟨rfl, rfl⟩) (fun _ => ⟨rfl, rfl⟩) result

/-- Once a result has a verdict, only its record is written, and none is looked up. -/
theorem moved_asks (hash : String) (reached : ProofStatus) :
    (do
      let _ ← Action.mark hash reached
      Action.note (.moved reached)
      return if reached = .done then .done else .error : Action Settlement).run.Asks
      (I := relaying) (fun call => call.fetches = false ∧
        call.WritesOnly fun hash' status => hash' = hash ∧ status = reached) := by
  refine Action.asks_bind ⟨⟨rfl, ?_⟩, fun _ => trivial⟩ fun _ => ?_
  · exact Call.writesOnly_of_some rfl ⟨rfl, rfl⟩
  · exact Action.asks_bind ⟨⟨rfl, Call.writesOnly_of_none rfl⟩, fun _ => trivial⟩ fun _ => trivial

theorem settle_writes {result : ProvingResult} {outcome : Option (Except Fault Settlement)}
    (run : (settle result).run.Runs (before ++ event :: after) outcome)
    (writes : event.call.writes = some (hash, status)) : Seen [result] hash status before := by
  have loud : ¬ event.call.writes = none := by
    rw [writes]
    rintro ⟨⟩
  have nonempty {t : Trace relaying} : t ++ event :: after ≠ [] :=
    List.append_ne_nil_of_right_ne_nil _ (List.cons_ne_nil _ _)
  have quietNote (n : Note) : (Action.note n).run.Asks (I := relaying) (·.writes = none) :=
    ⟨rfl, fun _ => trivial⟩
  have quietFetch (hash : String) :
      (Action.fetch hash).run.Asks (I := relaying) (·.writes = none) := ⟨rfl, fun _ => trivial⟩
  obtain ⟨_, noted, _, rfl, _, run₁⟩ := Action.runs_bind_second (quietNote _) run loud
  obtain ⟨found, _, _, rfl, looked, run₂⟩ := Action.runs_bind_second (quietFetch _) run₁ loud
  obtain rfl := Program.runs_query looked
  rcases found with _ | record
  · exact absurd (Action.pure_runs run₂).1 nonempty
  dsimp only at run₂
  split at run₂
  · exact absurd (Action.pure_runs run₂).1 nonempty
  · rename_i unfinished
    obtain ⟨reached, judged, middle, rfl, judging, run₃⟩ :=
      Action.runs_bind_second (verdict_asks result) run₂ fun quiet => loud quiet.1
    rcases reached with _ | reached
    · exact absurd (Action.pure_runs run₃).1 nonempty
    have asks := moved_asks result.hash reached
    obtain ⟨-, only⟩ := asks.mem run₃ event (List.mem_append_right middle List.mem_cons_self)
    obtain ⟨rfl, rfl⟩ := only hash status writes
    refine ⟨record, noted, judged ++ middle, rfl, unfinished, ?_, ?_⟩
    · refine List.forall_mem_append.mpr ⟨fun e member => ?_, fun e member => ?_⟩
      · exact ((verdict_asks result).mem judging e member).2
      · exact (asks.mem run₃ e (List.mem_append_left _ member)).1
    · rintro rfl
      obtain ⟨proof, rfl, succeeded, accepted⟩ := verdict_runs_done judging
      exact ⟨proof, List.mem_singleton.mpr rfl, succeeded, rfl,
        List.mem_append_left _ accepted⟩

/-- Settles results one after another. -/
def settling : List ProvingResult → Relay Unit
  | [] => return ()
  | result :: results => do
      let _ ← (settle result).run
      settling results

/-- The settlement of results writes a record only after it was shown one that is not done. -/
theorem settling_writes {results : List ProvingResult} {outcome : Option Unit}
    (run : (settling results).Runs (before ++ event :: after) outcome)
    (writes : event.call.writes = some (hash, status)) : Seen results hash status before := by
  induction results generalizing before with
  | nil =>
    have none := (Program.runs_done run).1
    cases before <;> cases none
  | cons result results ih =>
    have ofFirst {trace : Trace relaying} (seen : Seen [result] hash status trace) :
        Seen (result :: results) hash status trace :=
      seen.mono fun other member => List.mem_singleton.mp member ▸ List.mem_cons_self
    rcases Program.runs_bind run with ⟨_, first, second, split, settled, rest⟩ | ⟨rfl, settled⟩
    · rcases split_append split with ⟨more, inFirst⟩ | ⟨middle, rfl, rfl⟩
      · rw [inFirst] at settled
        exact ofFirst (settle_writes settled writes)
      · exact ((ih rest).mono fun _ => List.mem_cons_of_mem _).append first
    · exact ofFirst (settle_writes settled writes)

end Proof

end HeaderRelay
