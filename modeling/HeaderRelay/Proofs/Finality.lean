import HeaderRelay.Proofs.Caution
import Mathlib.Data.List.Induction

/-
Finished proofs, with any number of requests beside one consumer of results. Records are written
by whoever comes last, so a record that is done can be taken back, but only by somebody who had
looked at the block before it was done.
-/

set_option autoImplicit false

namespace HeaderRelay.Proof

open Interleaving

variable {ι : Type} [DecidableEq ι] {about : String → String → String} {rules : Epoch.Rules}
  {shared : Shared} {requests : ι → String} {results : List ProvingResult}
  {schedule : List (Entry (Option ι))} {system later : System (Option ι)} {actor : Option ι}
  {event : Event relaying} {hash : String} {status : ProofStatus}

/-- Requests side by side with a consumer that settles results, all at their beginning. -/
def service (rules : Epoch.Rules) (shared : Shared) (requests : ι → String)
    (results : List ProvingResult) : System (Option ι) where
  shared
  program
    | none => settling results
    | some i => do let _ ← (request rules (requests i)).run

/-- What an actor has seen when it looked at a block and did not find it finished: a request hears
that the contract holds no proof, the consumer sees a record that is not done. -/
inductive Unfinished (hash : String) : Option ι → Event relaying → Prop
  | request (i : ι) : Unfinished hash (some i) ⟨.isProofed hash, some (.ok false)⟩
  | consumer (record : ProofRecord) (notDone : record.status ≠ .done) :
      Unfinished hash none ⟨.fetch hash, some (.ok (some record))⟩

/-- The proofs of results are of the blocks that they are reported for. -/
def Labelled (about : String → String → String) (results : List ProvingResult) : Prop :=
  ∀ result, .block result ∈ results → result.status = .ok →
    about result.journal result.proof = result.block

/-- What is recorded as done the contract holds a proof of. -/
def Sound (shared : Shared) : Prop := ∀ hash, shared.Done hash → hash ∈ shared.proofed

/-- A request that writes a record was told before whether the contract holds a proof. -/
theorem request_told {i : ι}
    (ran : (service rules shared requests results).run? about schedule = some system)
    (stepped : system.step? about (.asked (some i) event) = some later)
    (writes : event.call.writes = some (hash, status)) :
    ∃ held, ⟨.isProofed hash, some (.ok held)⟩ ∈ asks (some i) schedule ∧
      (held = true ↔ status = .done) := by
  rcases Program.runs_bind (asks_next_runs ran stepped) with
    ⟨_, _, _, split, requested, ended⟩ | ⟨_, requested⟩
  · obtain ⟨rfl, _⟩ := Program.runs_done ended
    rw [List.append_nil] at split
    rw [← split] at requested
    exact request_writes requested writes
  · exact request_writes requested writes

/-- The consumer has seen what it must see before it writes a record. -/
theorem consumer_saw
    (ran : (service rules shared requests results).run? about schedule = some system)
    (stepped : system.step? about (.asked none event) = some later)
    (writes : event.call.writes = some (hash, status)) :
    Seen results hash status (asks none schedule) :=
  settling_writes (asks_next_runs ran stepped) writes

/-- Where proofs are of the blocks they are reported for, nobody writes that a record is done of
which the contract holds no proof. -/
theorem proofed_of_writes_done (labelled : Labelled about results)
    (ran : (service rules shared requests results).run? about schedule = some system)
    (stepped : system.step? about (.asked actor event) = some later)
    (writes : event.call.writes = some (hash, .done)) : hash ∈ system.shared.proofed := by
  cases actor with
  | some i =>
    obtain ⟨held, told, isHeld⟩ := request_told ran stepped writes
    obtain rfl := isHeld.mpr rfl
    obtain ⟨past, next, responds, still⟩ := exists_responds ran told
    obtain ⟨held, rfl⟩ := isProofed_of_respond? responds
    exact still hash (of_decide_eq_true held.symm)
  | none =>
    obtain ⟨record, front, back, split, _, _, accepted⟩ := consumer_saw ran stepped writes
    obtain ⟨result, member, succeeded, rfl, submitted⟩ := accepted rfl
    have asked : ⟨.submit result.journal result.proof, some (.ok ())⟩ ∈ asks none schedule := by
      rw [split]
      exact List.mem_append_right _ (List.mem_cons_of_mem _ submitted)
    obtain ⟨past, next, responds, still⟩ := exists_responds ran asked
    rw [← labelled result member succeeded]
    exact still _ (submit_of_respond? responds)

/-- As long as proofs are of the blocks they are reported for, no record is done without a proof
that the contract holds. -/
theorem sound_of_run (labelled : Labelled about results) (sound : Sound shared)
    (ran : (service rules shared requests results).run? about schedule = some system) :
    Sound system.shared := by
  induction schedule using List.reverseRecOn generalizing system with
  | nil =>
    cases ran
    exact sound
  | append_singleton schedule entry ih =>
    obtain ⟨past, upTo, rest⟩ := run?_append ran
    obtain ⟨next, stepped, ended⟩ := run?_cons rest
    cases ended
    have before := ih upTo
    intro hash done
    cases entry with
    | proved other =>
      cases stepped
      exact List.mem_cons_of_mem _ (before hash done)
    | asked actor event =>
      obtain ⟨_, _, _, _, _, rfl, responds, rfl⟩ := step?_asked stepped
      obtain ⟨record, found, isDone⟩ := done
      rcases get?_of_respond? responds with same | ⟨record', writes, written⟩
      · rw [same] at found
        exact proofed_of_respond? responds hash (before hash ⟨record, found, isDone⟩)
      · cases found.symm.trans written
        rw [isDone] at writes
        exact proofed_of_respond? responds hash
          (proofed_of_writes_done labelled upTo stepped writes)

/-- A record that is done is taken back only by an actor that had looked at its block before and
not found it finished. The consumer had not looked up a record since, and the record was not done
then; a request had heard that the contract holds no proof, which is so only before the record is
done if proofs are of the blocks they are reported for. -/
theorem done_taken_back_after_early_look {entry : Entry (Option ι)}
    (ran : (service rules shared requests results).run? about schedule = some system)
    (stepped : system.step? about entry = some later)
    (done : system.shared.Done hash) (undone : ¬ later.shared.Done hash) :
    ∃ actor event before look after past,
      entry = .asked actor event ∧ schedule = before ++ .asked actor look :: after ∧
      (service rules shared requests results).run? about before = some past ∧
      Unfinished hash actor look ∧
      (∀ i, actor = some i → hash ∉ past.shared.proofed) ∧
      (actor = none → ¬ past.shared.Done hash ∧
        ∀ event ∈ asks none after, event.call.fetches = false) ∧
      (Labelled about results → Sound shared → ¬ past.shared.Done hash) := by
  cases entry with
  | proved other =>
    cases stepped
    exact absurd done undone
  | asked actor event =>
    obtain ⟨_, _, _, _, _, rfl, responds, rfl⟩ := step?_asked stepped
    obtain ⟨record, found, isDone⟩ := done
    rcases get?_of_respond? responds with same | ⟨written, writes, now⟩
    · exact absurd ⟨record, same.trans found, isDone⟩ undone
    have notDone : written.status ≠ .done := fun isDone => undone ⟨written, now, isDone⟩
    cases actor with
    | some i =>
      obtain ⟨held, told, isHeld⟩ := request_told ran stepped writes
      obtain rfl : held = false := by
        rw [← Bool.not_eq_true]
        exact fun held => notDone (isHeld.mp held)
      obtain ⟨front, back, split⟩ := List.append_of_mem told
      obtain ⟨before, after, past, next, rfl, -, upTo, answered, -⟩ := run?_asked ran split
      obtain ⟨answer, -⟩ := isProofed_of_respond? answered
      have unproved : hash ∉ past.shared.proofed := of_decide_eq_false answer.symm
      refine ⟨_, _, before, _, after, past, rfl, rfl, upTo, .request i, fun _ _ => unproved, ?_,
        fun labelled sound done => ?_⟩
      · rintro ⟨⟩
      · exact unproved (sound_of_run labelled sound upTo hash done)
    | none =>
      obtain ⟨seen, front, back, split, unfinished, latest, -⟩ := consumer_saw ran stepped writes
      obtain ⟨before, after, past, next, rfl, behind, upTo, answered, -⟩ := run?_asked ran split
      have shown := fetch_of_respond? answered
      have notYet : ¬ past.shared.Done hash := by
        rintro ⟨other, there, isDone⟩
        cases shown.trans there
        exact unfinished isDone
      refine ⟨_, _, before, _, after, past, rfl, rfl, upTo, .consumer seen unfinished, ?_,
        fun _ => ⟨notYet, behind ▸ latest⟩, fun _ _ => notYet⟩
      rintro i ⟨⟩

/-- Two requests for one block and a result for it, over no records and no proofs. -/
def twoRequests : System (Option Bool) :=
  service ⟨⟨1, 3⟩, ⟨1, 1⟩⟩ ⟨.empty, []⟩ (fun _ => "H9") [.block ⟨"H9", "0a", "0b", .ok⟩]

/-- The status of the block after a schedule, if it is one of the two requests. -/
def statusAfter (about : String → String → String) (schedule : List (Entry (Option Bool))) :
    Option (Option ProofStatus) :=
  (twoRequests.run? about schedule).map fun s => (s.shared.store.get? "H9").map (·.status)

/-- A request up to its record, where the contract holds no proof of the block. -/
def records (i : Bool) : List (Entry (Option Bool)) :=
  let block : Block := ⟨"H9", 9, "H3", "H8", "H6", 0⟩
  let last : Block := ⟨"H3", 3, "G", "H2", "H1", 0⟩
  let first : Block := ⟨"H4", 4, "H1", "H3", "H3", 0⟩
  [.asked (some i) ⟨.block .primary (.hash "H9"), some (.ok (.found block))⟩,
    .asked (some i) ⟨.head .archival, some (.ok 9)⟩,
    .asked (some i) ⟨.note (.selected .primary), some ()⟩,
    .asked (some i) ⟨.block .primary (.hash "H9"), some (.ok (.found block))⟩,
    .asked (some i) ⟨.isProofed "H9", some (.ok false)⟩,
    .asked (some i) ⟨.block .primary (.hash "H3"), some (.ok (.found last))⟩,
    .asked (some i) ⟨.block .primary (.height 4), some (.ok (.found first))⟩,
    .asked (some i) ⟨.clock, some (0 : Nat)⟩,
    .asked (some i) ⟨.save ⟨"H9", 9, "H3", 0, .inProcessing, 0⟩, some (.ok ())⟩]

/-- Publishing the task of a request, with its outcome. -/
def publishes (i : Bool) (outcome : Except Fault Unit) : Entry (Option Bool) :=
  .asked (some i) ⟨.publish (.block ⟨"H9", "H4", "H3"⟩), some outcome⟩

/-- The settlement of the result, whose proof the contract accepts. -/
def settles : List (Entry (Option Bool)) :=
  [.asked none ⟨.note (.resultReceived .ok), some ()⟩,
    .asked none ⟨.fetch "H9", some (.ok (some ⟨"H9", 9, "H3", 0, .inProcessing, 0⟩))⟩,
    .asked none ⟨.submit "0a" "0b", some (.ok ())⟩,
    .asked none ⟨.note (.submitted true), some ()⟩,
    .asked none ⟨.mark "H9" .done, some (.ok ⟨"H9", 9, "H3", 0, .done, 0⟩)⟩]

/-- A task that is delivered although publishing it fails, and whose result is settled before the
request hears of the failure. -/
def lateFailure : List (Entry (Option Bool)) :=
  records true ++ publishes true (.error ⟨.bus, "timed out"⟩) :: settles

/-- What the request does next: it records the failure. -/
def recordsFailure : Entry (Option Bool) :=
  .asked (some true) ⟨.mark "H9" .error, some (.ok ⟨"H9", 9, "H3", 0, .error, 0⟩)⟩

/-- A record that is done becomes an error when a request hears late that publishing failed. It is
reset by a second request if the proof that the contract accepted is of another block. -/
theorem done_record_taken_back :
    statusAfter (fun _ _ => "H9") lateFailure = some (some .done) ∧
    statusAfter (fun _ _ => "H9") (lateFailure ++ [recordsFailure]) = some (some .error) ∧
    statusAfter (fun _ _ => "H8") (records true ++ publishes true (.ok ()) :: settles) =
      some (some .done) ∧
    statusAfter (fun _ _ => "H8") (records true ++ publishes true (.ok ()) ::
      (settles ++ records false)) = some (some .inProcessing) :=
  ⟨rfl, rfl, rfl, rfl⟩

theorem done_taken_back_lateFailure :
    ∃ system later past : System (Option Bool), ∃ before look after,
      twoRequests.run? (fun _ _ => "H9") lateFailure = some system ∧
      system.step? (fun _ _ => "H9") recordsFailure = some later ∧
      system.shared.Done "H9" ∧ ¬ later.shared.Done "H9" ∧
      lateFailure = before ++ .asked (some true) look :: after ∧
      twoRequests.run? (fun _ _ => "H9") before = some past ∧
      Unfinished "H9" (some true) look ∧ ¬ past.shared.Done "H9" := by
  have endsDone : (twoRequests.run? (fun _ _ => "H9") lateFailure).map
      (·.shared.store.get? "H9") = some (some ⟨"H9", 9, "H3", 0, .done, 0⟩) := rfl
  have endsFailed : (twoRequests.run? (fun _ _ => "H9") (lateFailure ++ [recordsFailure])).map
      (·.shared.store.get? "H9") = some (some ⟨"H9", 9, "H3", 0, .error, 0⟩) := rfl
  obtain ⟨later, ranLater, failed⟩ := Option.map_eq_some_iff.mp endsFailed
  obtain ⟨system, ran, rest⟩ := run?_append ranLater
  obtain ⟨next, stepped, ended⟩ := run?_cons rest
  cases ended
  rw [ran, Option.map_some] at endsDone
  have done : system.shared.Done "H9" := ⟨_, Option.some.inj endsDone, rfl⟩
  have undone : ¬ later.shared.Done "H9" := by
    rintro ⟨record, found, isDone⟩
    rw [failed] at found
    cases found
    cases isDone
  obtain ⟨_, _, before, look, after, past, same, split, upTo, looked, -, -, notYet⟩ :=
    done_taken_back_after_early_look ran stepped done undone
  cases same
  have labelled : Labelled (fun _ _ => "H9") [.block ⟨"H9", "0a", "0b", .ok⟩] := by
    intro result member _
    cases List.mem_singleton.mp member
    rfl
  have sound : Sound ⟨.empty, []⟩ := by
    rintro hash ⟨record, found, _⟩
    cases found
  exact ⟨system, later, past, before, look, after, ran, stepped, done, undone, split, upTo,
    looked, notYet labelled sound⟩

end HeaderRelay.Proof
