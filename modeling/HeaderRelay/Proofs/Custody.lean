import HeaderRelay.Proofs.Bookkeeping
import HeaderRelay.Proofs.Caution

/-
Requests and settlements of results side by side, over records in memory. A request saves the
record of its block before it hands the task over, and no record is ever removed, so a result that
answers a task finds the record of its hash, however the questions of all of them interleave.
-/

set_option autoImplicit false

namespace HeaderRelay

/-- The hash of the record that has to be there when a question is asked. -/
def Call.presumes : Call → Option String
  | .fetch hash => some hash
  | .mark hash _ => some hash
  | .publish task => some task.hash
  | _ => none

theorem Call.presumes_of_looks (call : Call) (looks : call.looks = true) :
    call.presumes = none := by
  cases call <;> first | rfl | cases looks

/-- Whatever record a question presumes is that of a hash. -/
def Call.PresumesOnly (hash : String) (call : Call) : Prop :=
  ∀ other, call.presumes = some other → other = hash

namespace Interleaving

variable {α : Type}

def events : List (Entry α) → Trace relaying
  | [] => []
  | .asked _ event :: schedule => event :: events schedule
  | .proved _ :: schedule => events schedule

@[simp] theorem events_append (first second : List (Entry α)) :
    events (first ++ second) = events first ++ events second := by
  induction first with
  | nil => rfl
  | cons entry first ih => cases entry <;> simp [events, ih]

@[simp] theorem events_asked (actor : α) (event : Event relaying) (schedule : List (Entry α)) :
    events (.asked actor event :: schedule) = event :: events schedule := rfl

theorem mem_events_of_mem_asks [DecidableEq α] {actor : α} {schedule : List (Entry α)}
    {event : Event relaying} (member : event ∈ asks actor schedule) : event ∈ events schedule := by
  obtain ⟨front, back, split⟩ := List.append_of_mem member
  obtain ⟨before, after, rfl, -, -⟩ := asks_split split
  simp

end Interleaving

namespace Proof

open Interleaving

theorem Store.isSome_get?_of_saved {store : Store} {trace : Trace relaying} {record : ProofRecord}
    (saved : ⟨.save record, some (.ok ())⟩ ∈ trace) :
    ((store.afterAll trace).get? record.hash).isSome := by
  obtain ⟨before, after, rfl⟩ := List.append_of_mem saved
  rw [Store.afterAll_append, Store.afterAll_cons]
  apply Store.isSome_get?_afterAll
  change (((store.afterAll before).put record).get? record.hash).isSome
  rw [Store.get?_put, if_pos rfl]
  rfl

section Programs

variable {rules : Epoch.Rules} {asked hash : String} {result : ProvingResult} {block : Block}
  {before after : Trace relaying} {event : Event relaying}

/-- The record of a block that is finished is saved, and none presumed. -/
theorem finished_presumes (block : Block) :
    (do
      let now ← Action.clock
      let record := ProofRecord.ofBlock block .done now
      Action.save record
      return record : Action ProofRecord).run.Asks (I := relaying) (·.presumes = none) :=
  Action.asks_bind ⟨rfl, fun _ => trivial⟩ fun _ =>
    Action.asks_bind ⟨rfl, fun _ => trivial⟩ fun _ => trivial

/-- Dispatch presumes a record only after it has saved one of the same hash: that of its block. -/
theorem dispatch_presumes {node : Endpoint} {outcome : Option (Except Fault ProofRecord)}
    (run : (dispatch rules node block).run.Runs (before ++ event :: after) outcome)
    (presumes : event.call.presumes = some hash) :
    ∃ record, ⟨.save record, some (.ok ())⟩ ∈ before ∧ record.hash = hash := by
  have loud : ¬ event.call.presumes = none := by
    rw [presumes]
    rintro ⟨⟩
  have quietClock : Action.clock.run.Asks (I := relaying) (·.presumes = none) :=
    ⟨rfl, fun _ => trivial⟩
  have quietSave (record : ProofRecord) :
      (Action.save record).run.Asks (I := relaying) (·.presumes = none) :=
    ⟨rfl, fun _ => trivial⟩
  obtain ⟨anchors, _, _, rfl, -, run₁⟩ := Action.runs_bind_second
    ((anchors_asks _ _ _).mono Call.presumes_of_looks) run loud
  rcases Action.lift_bind_runs run₁ with ⟨_, -, impossible, -⟩ | ⟨task, built, run₂⟩
  · exact absurd impossible (by simp)
  obtain ⟨now, _, _, rfl, -, run₃⟩ := Action.runs_bind_second quietClock run₂ loud
  obtain ⟨_, _, middle, rfl, saved, run₄⟩ := Action.runs_bind_second (quietSave _) run₃ loud
  obtain rfl := Program.runs_query saved
  refine ⟨ProofRecord.ofBlock block .inProcessing now, List.mem_append_right _
    (List.mem_append_right _ (List.mem_append_left _ List.mem_cons_self)), ?_⟩
  -- From here on only the record of the block is presumed: by its task, and by its mark.
  have publishes : (Action.publish (.block task)).outcome.run.Asks (I := relaying)
      (Call.PresumesOnly block.hash) := by
    refine Action.asks_outcome ⟨?_, fun _ => trivial⟩
    rintro other ⟨⟩
    exact BlockTask.build_ok built
  refine ((Action.asks_bind publishes fun outcome => ?_).mem run₄ event (by simp) hash
    presumes).symm
  cases outcome with
  | ok _ => trivial
  | error fault =>
    refine Action.asks_bind ⟨?_, fun _ => trivial⟩ fun _ => trivial
    rintro other ⟨⟩
    rfl

/-- A request presumes a record only after it has saved one of the same hash. -/
theorem request_presumes {outcome : Option (Except Fault ProofRecord)}
    (run : (request rules asked).run.Runs (before ++ event :: after) outcome)
    (presumes : event.call.presumes = some hash) :
    ∃ record, ⟨.save record, some (.ok ())⟩ ∈ before ∧ record.hash = hash := by
  have loud : ¬ event.call.presumes = none := by
    rw [presumes]
    rintro ⟨⟩
  have quietRequire (node : Endpoint) (id : BlockId) :
      (Node.require node id).run.Asks (I := relaying) (·.presumes = none) := Node.require_asks rfl
  have quietIsProofed (hash : String) :
      (Action.isProofed hash).run.Asks (I := relaying) (·.presumes = none) :=
    ⟨rfl, fun _ => trivial⟩
  unfold request at run
  dsimp only at run
  split at run
  · have none := (Action.fail_runs run).1
    cases before <;> cases none
  · obtain ⟨node, _, _, rfl, -, run₁⟩ := Action.runs_bind_second
      ((Node.resolve_asks _ _ _).mono Call.presumes_of_looks) run loud
    obtain ⟨block, _, _, rfl, -, run₂⟩ := Action.runs_bind_second (quietRequire _ _) run₁ loud
    obtain ⟨held, _, middle, rfl, -, run₃⟩ :=
      Action.runs_bind_second (quietIsProofed _) run₂ loud
    split at run₃
    · exact absurd ((finished_presumes block).mem run₃ event (by simp)) loud
    · obtain ⟨record, saved, same⟩ := dispatch_presumes run₃ presumes
      exact ⟨record, by simp [saved], same⟩

/-- The settlement of a result presumes no record but its own. -/
theorem settle_presumes (result : ProvingResult) :
    (settle result).run.Asks (I := relaying) (Call.PresumesOnly result.hash) := by
  have quiet {call : Call} (none : call.presumes = none) : call.PresumesOnly result.hash := by
    intro other presumes
    rw [none] at presumes
    cases presumes
  have own : ∀ other, some result.hash = some other → other = result.hash := by
    rintro other ⟨⟩
    rfl
  refine Action.asks_bind ⟨quiet rfl, fun _ => trivial⟩ fun _ => ?_
  refine Action.asks_bind ⟨own, fun _ => trivial⟩ fun found => ?_
  cases found with
  | none => trivial
  | some record =>
    dsimp only
    split
    · trivial
    · refine Action.asks_bind (verdict_asks_of (fun _ _ => quiet rfl) (fun _ => quiet rfl) result)
        fun reached => ?_
      cases reached with
      | none => trivial
      | some status =>
        refine Action.asks_bind ⟨own, fun _ => trivial⟩ fun _ => ?_
        exact Action.asks_bind ⟨quiet rfl, fun _ => trivial⟩ fun _ => trivial

theorem settle_head {outcome : Option (Except Fault Settlement)}
    (run : (settle result).run.Runs (event :: after) outcome) : event.call.presumes = none := by
  rcases Action.note_bind_runs run with ⟨same, -⟩ | ⟨_, same, -⟩
  · cases same
    rfl
  · cases same
    rfl

end Programs

variable {ι κ : Type} [DecidableEq ι] [DecidableEq κ] {rules : Epoch.Rules}
  {requests : ι → String} {results : κ → ProvingResult} {store : Store}
  {schedule before after : List (Entry (ι ⊕ κ))} {actor : ι ⊕ κ} {event : Event relaying}
  {task : ProvingTask} {hash : String}

/-- The records after a schedule. -/
def held (store : Store) (schedule : List (Entry (ι ⊕ κ))) : Store :=
  store.afterAll (events schedule)

/-- Requests and settlements side by side over records in memory, in the order of a schedule: each
asks what a run of its program begins with, and every question is answered before the next. -/
structure SideBySide (rules : Epoch.Rules) (requests : ι → String) (results : κ → ProvingResult)
    (store : Store) (schedule : List (Entry (ι ⊕ κ))) : Prop where
  requests : ∀ i, ∃ rest outcome,
    (request rules (requests i)).run.Runs (asks (.inl i) schedule ++ rest) outcome
  settlements : ∀ j, ∃ rest outcome,
    (settle (results j)).run.Runs (asks (.inr j) schedule ++ rest) outcome
  answered : ∀ event ∈ events schedule, event.reply.isSome
  kept : Store.Kept Store.answers store (events schedule)

/-- Some request has come so far that it hands over a task: it has heard what a run hears that
publishes the task next. Whether that call has returned, and with which outcome, is left open. -/
def HandedOver (rules : Epoch.Rules) (requests : ι → String) (schedule : List (Entry (ι ⊕ κ)))
    (task : ProvingTask) : Prop :=
  ∃ i front reply back outcome,
    (request rules (requests i)).run.Runs (front ++ ⟨.publish task, reply⟩ :: back) outcome ∧
    front <+: asks (.inl i) schedule

/-- The settlement of a result begins only when a task of its hash was handed over. -/
def Awaited (rules : Epoch.Rules) (requests : ι → String) (results : κ → ProvingResult)
    (schedule : List (Entry (ι ⊕ κ))) : Prop :=
  ∀ j before event after, schedule = before ++ .asked (.inr j) event :: after →
    asks (.inr j) before = [] →
    ∃ task, HandedOver rules requests before task ∧ task.hash = (results j).hash

/-- Before a task is handed over, a record of its hash is saved. -/
theorem HandedOver.saved (handed : HandedOver rules requests before task) :
    ∃ record, ⟨.save record, some (.ok ())⟩ ∈ events before ∧ record.hash = task.hash := by
  obtain ⟨i, front, reply, back, outcome, run, begins⟩ := handed
  obtain ⟨record, saved, same⟩ := request_presumes run rfl
  exact ⟨record, mem_events_of_mem_asks (begins.subset saved), same⟩

/-- A record that a question presumes is there when the question is asked. -/
theorem SideBySide.presumed
    (together : SideBySide rules requests results store (before ++ .asked actor event :: after))
    (awaited : Awaited rules requests results (before ++ .asked actor event :: after))
    (presumes : event.call.presumes = some hash) :
    ((held store before).get? hash).isSome := by
  cases actor with
  | inl i =>
    obtain ⟨rest, outcome, run⟩ := together.requests i
    rw [asks_append, asks_asked_self, List.append_assoc, List.cons_append] at run
    obtain ⟨record, saved, rfl⟩ := request_presumes run presumes
    exact Store.isSome_get?_of_saved (mem_events_of_mem_asks saved)
  | inr j =>
    obtain ⟨rest, outcome, run⟩ := together.settlements j
    rw [asks_append, asks_asked_self, List.append_assoc, List.cons_append] at run
    obtain rfl := (settle_presumes _).mem run event (by simp) hash presumes
    cases asked : asks (.inr j) before with
    | nil =>
      rw [asked] at run
      cases presumes.symm.trans (settle_head run)
    | cons first more =>
      -- The settlement has begun before, and then its task was handed over already.
      have split : asks (.inr j) before = [] ++ first :: more := asked
      obtain ⟨earlier, later, rfl, none, -⟩ := asks_split split
      obtain ⟨task, handed, same⟩ := awaited j earlier first _
        (by rw [List.append_assoc, List.cons_append]) none
      obtain ⟨record, saved, same'⟩ := handed.saved
      rw [← same, ← same', held, events_append, Store.afterAll_append]
      exact Store.isSome_get?_afterAll (Store.isSome_get?_of_saved saved)

/-- Whatever is asked is answered from the records as they are then. -/
theorem SideBySide.answers
    (together : SideBySide rules requests results store (before ++ .asked actor event :: after)) :
    event.reply.isSome ∧ (held store before).answers event = true := by
  obtain ⟨-, -, answered, kept⟩ := together
  rw [events_append, events_asked] at answered kept
  exact ⟨answered event (by simp), kept.fits_of_mid⟩

theorem SideBySide.fetched {reply : Option (Except Fault (Option ProofRecord))}
    (together : SideBySide rules requests results store schedule)
    (awaited : Awaited rules requests results schedule)
    (member : ⟨.fetch hash, reply⟩ ∈ asks actor schedule) :
    ∃ record, reply = some (.ok (some record)) := by
  obtain ⟨front, back, split⟩ := List.append_of_mem member
  obtain ⟨before, after, rfl, -, -⟩ := asks_split split
  obtain ⟨record, found⟩ := Option.isSome_iff_exists.mp (together.presumed awaited rfl)
  obtain ⟨answered, answers⟩ := together.answers
  cases reply with
  | none => cases answered
  | some reply => exact ⟨record, by rw [Store.fetched answers, found]⟩

/-- A mark succeeds, and changes the status of its record and nothing else. -/
theorem SideBySide.marked {reply : Option (Except Fault ProofRecord)} {status : ProofStatus}
    (together : SideBySide rules requests results store
      (before ++ .asked actor ⟨.mark hash status, reply⟩ :: after))
    (awaited : Awaited rules requests results
      (before ++ .asked actor ⟨.mark hash status, reply⟩ :: after)) :
    ∃ record, (held store before).get? hash = some record ∧
      reply = some (.ok { record with status := status }) ∧
      ∀ other, (held store (before ++ [.asked actor ⟨.mark hash status, reply⟩])).get? other =
        if other = hash then some { record with status := status }
        else (held store before).get? other := by
  obtain ⟨record, found⟩ := Option.isSome_iff_exists.mp (together.presumed awaited rfl)
  obtain ⟨answered, answers⟩ := together.answers
  cases reply with
  | none => cases answered
  | some reply =>
    obtain rfl := Store.marked found answers
    obtain ⟨next, marks, get?⟩ := Store.mark_of_get? found status
    refine ⟨record, found, rfl, fun other => ?_⟩
    rw [held, events_append, Store.afterAll_append]
    change ((held store before).after
      ⟨.mark hash status, some (.ok { record with status := status })⟩).get? other = _
    simp only [Store.after, marks, get?]

/-- No result of a task that was handed over is lost for want of a record, however requests and
settlements interleave. A settlement finds a record; every mark succeeds, also the one after a task
could not be published, and changes the status of its record and nothing else; a task is handed
over only after a record of its hash is saved; and records stay under their own hashes and are
never removed. -/
theorem records_in_custody (together : SideBySide rules requests results store schedule)
    (awaited : Awaited rules requests results schedule) (keyed : store.Keyed) :
    (∀ j hash reply, ⟨.fetch hash, reply⟩ ∈ asks (.inr j) schedule →
      ∃ record, reply = some (.ok (some record))) ∧
    (∀ before actor hash status reply after,
      schedule = before ++ .asked actor ⟨.mark hash status, reply⟩ :: after →
      ∃ record, (held store before).get? hash = some record ∧
        reply = some (.ok { record with status := status }) ∧
        ∀ other, (held store (before ++ [.asked actor ⟨.mark hash status, reply⟩])).get? other =
          if other = hash then some { record with status := status }
          else (held store before).get? other) ∧
    (∀ before after task, schedule = before ++ after → HandedOver rules requests before task →
      ∃ record, ⟨.save record, some (.ok ())⟩ ∈ events before ∧ record.hash = task.hash) ∧
    ∀ before middle after, schedule = before ++ (middle ++ after) → (held store before).Keyed ∧
      ∀ hash, ((held store before).get? hash).isSome →
        ((held store (before ++ middle)).get? hash).isSome := by
  refine ⟨fun j hash reply member => together.fetched awaited member, ?_,
    fun before after task _ handed => handed.saved, ?_⟩
  · rintro before actor hash status reply after rfl
    exact together.marked awaited
  · rintro before middle after -
    refine ⟨keyed.afterAll, fun hash there => ?_⟩
    rw [held, events_append, Store.afterAll_append]
    exact Store.isSome_get?_afterAll there

/-- A request for a block whose task is delivered although publishing it fails, and whose result is
settled before the request hears of the failure. -/
def refusedLate : List (Entry (Unit ⊕ Unit)) :=
  let block : Block := ⟨"H9", 9, "H3", "H8", "H6", 0⟩
  let last : Block := ⟨"H3", 3, "G", "H2", "H1", 0⟩
  let first : Block := ⟨"H4", 4, "H1", "H3", "H3", 0⟩
  let record : ProofRecord := ⟨"H9", 9, "H3", 0, .inProcessing, 0⟩
  [.asked (.inl ()) ⟨.block .primary (.hash "H9"), some (.ok (.found block))⟩,
    .asked (.inl ()) ⟨.head .archival, some (.ok 9)⟩,
    .asked (.inl ()) ⟨.note (.selected .primary), some ()⟩,
    .asked (.inl ()) ⟨.block .primary (.hash "H9"), some (.ok (.found block))⟩,
    .asked (.inl ()) ⟨.isProofed "H9", some (.ok false)⟩,
    .asked (.inl ()) ⟨.block .primary (.hash "H3"), some (.ok (.found last))⟩,
    .asked (.inl ()) ⟨.block .primary (.height 4), some (.ok (.found first))⟩,
    .asked (.inl ()) ⟨.clock, some (0 : Nat)⟩,
    .asked (.inl ()) ⟨.save record, some (.ok ())⟩,
    .asked (.inr ()) ⟨.note (.resultReceived .ok), some ()⟩,
    .asked (.inr ()) ⟨.fetch "H9", some (.ok (some record))⟩,
    .asked (.inr ()) ⟨.submit "0a" "0b", some (.ok ())⟩,
    .asked (.inl ()) ⟨.publish (.block ⟨"H9", "H4", "H3"⟩), some (.error ⟨.bus, "timed out"⟩)⟩,
    .asked (.inr ()) ⟨.note (.submitted true), some ()⟩,
    .asked (.inl ()) ⟨.mark "H9" .error, some (.ok { record with status := .error })⟩,
    .asked (.inr ()) ⟨.mark "H9" .done, some (.ok { record with status := .done })⟩,
    .asked (.inr ()) ⟨.note (.moved .done), some ()⟩]

/-- The settlement begins once the record is saved, when the task is handed over. -/
theorem refusedLate_awaited :
    Awaited ⟨⟨1, 3⟩, ⟨1, 1⟩⟩ (fun _ : Unit => "H9")
      (fun _ : Unit => .block ⟨"H9", "0a", "0b", .ok⟩) refusedLate := by
  intro j before event after split unasked
  have begins : refusedLate = refusedLate.take 9 ++
      .asked (.inr ()) ⟨.note (.resultReceived .ok), some ()⟩ :: refusedLate.drop 10 := rfl
  obtain rfl := asks_first_unique (split.symm.trans begins) unasked rfl
  have run : (request ⟨⟨1, 3⟩, ⟨1, 1⟩⟩ "H9").run.Runs
      (asks (.inl ()) (refusedLate.take 9) ++ [⟨.publish (.block ⟨"H9", "H4", "H3"⟩), none⟩])
      none := Program.runs_of_replay? rfl
  exact ⟨.block ⟨"H9", "H4", "H3"⟩, ⟨(), _, _, _, _, run, List.prefix_refl _⟩, rfl⟩

theorem refusedLate_sideBySide :
    SideBySide ⟨⟨1, 3⟩, ⟨1, 1⟩⟩ (fun _ : Unit => "H9")
      (fun _ : Unit => .block ⟨"H9", "0a", "0b", .ok⟩) .empty refusedLate where
  requests _ := ⟨[], some (.error ⟨.bus, "timed out"⟩), Program.runs_of_replay? rfl⟩
  settlements _ := ⟨[], some (.ok .done), Program.runs_of_replay? rfl⟩
  answered := by decide
  kept := by decide

theorem records_in_custody_refusedLate :
    SideBySide ⟨⟨1, 3⟩, ⟨1, 1⟩⟩ (fun _ : Unit => "H9")
      (fun _ : Unit => .block ⟨"H9", "0a", "0b", .ok⟩) .empty refusedLate ∧
    Awaited ⟨⟨1, 3⟩, ⟨1, 1⟩⟩ (fun _ : Unit => "H9")
      (fun _ : Unit => .block ⟨"H9", "0a", "0b", .ok⟩) refusedLate ∧
    Store.empty.Keyed ∧ (held .empty refusedLate).Keyed ∧
    ((held .empty (refusedLate.take 9)).get? "H9").isSome ∧
    ((held .empty refusedLate).get? "H9").isSome := by
  obtain ⟨-, -, -, remain⟩ :=
    records_in_custody refusedLate_sideBySide refusedLate_awaited Store.keyed_empty
  have saved : ((held .empty (refusedLate.take 9)).get? "H9").isSome := rfl
  obtain ⟨-, stays⟩ := remain (refusedLate.take 9) (refusedLate.drop 9) [] rfl
  obtain ⟨keyed, -⟩ := remain refusedLate [] [] rfl
  exact ⟨refusedLate_sideBySide, refusedLate_awaited, Store.keyed_empty, keyed, saved,
    stays "H9" saved⟩

end Proof

end HeaderRelay
