import HeaderRelay.Proofs.Bookkeeping
import HeaderRelay.Proofs.Caution
import HeaderRelay.Proofs.Refusal
import HeaderRelay.Proofs.Window
import Mathlib.Data.List.DropRight

set_option autoImplicit false

namespace HeaderRelay

namespace Blank

variable {left right : List Char} (cs : List Char)

theorem dropWhile_trimChars : (trimChars cs).dropWhile isBlank = trimChars cs := by
  have prefixed : trimChars cs <+: cs.dropWhile isBlank := List.rdropWhile_prefix isBlank _
  have kept := List.dropWhile_idempotent isBlank cs
  obtain ⟨tail, same⟩ := prefixed
  cases first : trimChars cs with
  | nil => rfl
  | cons c rest =>
    rw [← same, first, List.cons_append, List.dropWhile_cons] at kept
    split at kept
    · have size := congrArg List.length kept
      have bound := (List.dropWhile_suffix isBlank (l := rest ++ tail)).length_le
      rw [List.length_cons] at size
      omega
    · rename_i notBlank
      exact List.dropWhile_cons_of_neg notBlank

theorem trimRight_trimChars : trimRight (trimChars cs) = trimChars cs :=
  List.rdropWhile_idempotent isBlank (cs.dropWhile isBlank)

theorem trimRight_append (after : right.all isBlank = true) :
    trimRight (cs ++ right) = trimRight cs := by
  have blanks : ∀ c ∈ right.reverse, isBlank c = true := by
    intro c member
    exact List.all_eq_true.mp after c (List.mem_reverse.mp member)
  rw [trimRight, List.reverse_append, List.dropWhile_append_of_pos blanks, trimRight]

theorem trimChars_padded (before : left.all isBlank = true) (after : right.all isBlank = true) :
    trimChars (left ++ trimChars cs ++ right) = trimChars cs := by
  by_cases empty : trimChars cs = []
  · rw [empty, List.append_nil]
    apply trim_of_all_blank
    rw [List.all_append, before, after, Bool.and_self]
  · have front : (left ++ trimChars cs ++ right).dropWhile isBlank = trimChars cs ++ right := by
      rw [List.append_assoc, List.dropWhile_append_of_pos (List.all_eq_true.mp before),
        List.dropWhile_append, dropWhile_trimChars, if_neg]
      rw [List.isEmpty_iff]
      exact empty
    rw [trimChars, front, trimRight_append _ after, trimRight_trimChars]

/-- A text is trimmed to what is left of it, whatever blanks are put around that. -/
theorem trim_padded {left right : String} (s : String) (before : isBlankText left = true)
    (after : isBlankText right = true) : trim (left ++ trim s ++ right) = trim s := by
  have padded : (left ++ trim s ++ right).toList =
      left.toList ++ trimChars s.toList ++ right.toList := by
    rw [String.toList_append, String.toList_append, trim, String.toList_ofList]
  have trimmed := trimChars_padded s.toList before after
  rw [trim, padded, trimmed, trim]

end Blank

/-- Whether a question comes before a record is written: it looks, or asks the contract or the
clock. -/
def Call.prepares : Call → Bool
  | .isProofed _ | .clock => true
  | call => call.looks

theorem Call.prepares_of_looks (call : Call) (looks : call.looks = true) :
    call.prepares = true := by
  cases call <;> first | rfl | exact looks

theorem Trace.prepares_of_looks {trace : Trace relaying}
    (looks : ∀ event ∈ trace, event.call.looks = true) :
    ∀ event ∈ trace, event.call.prepares = true :=
  fun event member => event.call.prepares_of_looks (looks event member)

/-- What a question hands to the bus, with the answer. -/
def Event.publication? : Event relaying → Option (ProvingTask × Option (Except Fault Unit))
  | ⟨.publish task, reply⟩ => some (task, reply)
  | _ => none

/-- What a row of questions hands to the bus, each task with its answer. -/
def Trace.publications (trace : Trace relaying) :
    List (ProvingTask × Option (Except Fault Unit)) :=
  trace.filterMap Event.publication?

theorem Trace.publications_append (first second : Trace relaying) :
    Trace.publications (first ++ second) = first.publications ++ second.publications :=
  List.filterMap_append

theorem Trace.publications_of_prepares {trace : Trace relaying}
    (quiet : ∀ event ∈ trace, event.call.prepares = true) : trace.publications = [] := by
  apply List.filterMap_eq_nil_iff.mpr
  rintro ⟨call, reply⟩ member
  have prepares := quiet _ member
  cases call <;> first | rfl | cases prepares

namespace Action

variable {α β : Type} {P : Call → Prop}

/-- Where the first of two actions only asks questions of some sort, a run to the end comes to the
second, or asks no others and ends in the fault of the first. -/
theorem ended_bind_of_asks {a : Action α} {f : α → Action β} {trace : Trace relaying}
    {ended : Except Fault β} (asks : a.run.Asks (I := relaying) P)
    (run : (a >>= f).run.Runs trace (some ended)) :
    (∃ fault, ended = .error fault ∧ a.run.Runs trace (some (.error fault)) ∧
      ∀ event ∈ trace, P event.call) ∨
    ∃ x before after, trace = before ++ after ∧ a.run.Runs before (some (.ok x)) ∧
      (∀ event ∈ before, P event.call) ∧ (f x).run.Runs after (some ended) := by
  obtain ⟨x, before, after, split, first, rest⟩ | ⟨fault, same, first⟩ | ⟨impossible, -⟩ :=
    runs_bind run
  · exact .inr ⟨x, before, after, split, first, asks.mem first, rest⟩
  · exact .inl ⟨fault, Option.some.inj same, first, asks.mem first⟩
  · cases impossible

/-- After a look at the clock an action that comes to its end goes on. -/
theorem clock_bind_ended {f : Nat → Action β} {trace : Trace relaying} {ended : Except Fault β}
    (run : (clock >>= f).run.Runs trace (some ended)) :
    ∃ (now : Nat) (after : Trace relaying), trace = ⟨.clock, some now⟩ :: after ∧
      (f now).run.Runs after (some ended) := by
  cases run with
  | answered reply rest => exact ⟨reply, _, rfl, rest⟩

end Action

namespace Proof

/-- A request that comes to write the record of a block, and what it asks from then on. A node has
shown the block under the hash that was asked for, and the contract has said whether it holds a
proof of it. -/
inductive Opened (asked : String) (block : Block) (held : Bool) (created : Nat)
    (rest : Trace relaying) : Trace relaying → Prop
  | intro {node : Endpoint} {front middle : Trace relaying}
      (selected : ∀ event ∈ front, event.call.looks = true)
      (anchored : ∀ event ∈ middle, event.call.looks = true) :
      Opened asked block held created rest
        (front ++ ([⟨.block node (.hash (Blank.trim asked)), some (.ok (.found block))⟩] ++
          ⟨.isProofed block.hash, some (.ok held)⟩ :: (middle ++ ⟨.clock, some created⟩ :: rest)))

/-- All that becomes of the record of a block and its task, from the saving of the record on. -/
inductive Handed (record : ProofRecord) (task : BlockTask) :
    Trace relaying → Except Fault ProofRecord → Prop
  /-- The record cannot be saved. -/
  | unsaved (fault : Fault) :
      Handed record task [⟨.save record, some (.error fault)⟩] (.error fault)
  /-- The task is published. -/
  | published :
      Handed record task
        [⟨.save record, some (.ok ())⟩, ⟨.publish (.block task), some (.ok ())⟩] (.ok record)
  /-- The task cannot be published, and the record is marked. -/
  | undelivered (fault : Fault) (marked : ProofRecord) :
      Handed record task [⟨.save record, some (.ok ())⟩,
        ⟨.publish (.block task), some (.error fault)⟩,
        ⟨.mark record.hash .error, some (.ok marked)⟩] (.error fault)
  /-- The task cannot be published, nor the record be marked. -/
  | unmarked (fault other : Fault) :
      Handed record task [⟨.save record, some (.ok ())⟩,
        ⟨.publish (.block task), some (.error fault)⟩,
        ⟨.mark record.hash .error, some (.error other)⟩] (.error other)

/-- All that a request can do when it comes to its end. -/
inductive Requested (rules : Epoch.Rules) (asked : String) (heard : Trace relaying) :
    Except Fault ProofRecord → Prop
  /-- It fails before there is a record to write. -/
  | refused {fault : Fault} (quiet : ∀ event ∈ heard, event.call.prepares = true)
      (untold : ∀ hash, ⟨.isProofed hash, some (.ok true)⟩ ∉ heard)
      (refusal : Refusal rules asked heard fault) : Requested rules asked heard (.error fault)
  /-- The contract holds a proof of the block already, but the record cannot be saved. -/
  | unsaved {block : Block} {created : Nat} {fault : Fault}
      (opened : Opened asked block true created
        [⟨.save (.ofBlock block .done created), some (.error fault)⟩] heard) :
      Requested rules asked heard (.error fault)
  /-- The contract holds a proof of the block already. -/
  | finished {block : Block} {created : Nat}
      (opened : Opened asked block true created
        [⟨.save (.ofBlock block .done created), some (.ok ())⟩] heard) :
      Requested rules asked heard (.ok (.ofBlock block .done created))
  /-- A task is made of the block. -/
  | handed {rest : Trace relaying} {block : Block} {created : Nat} {task : BlockTask}
      {ended : Except Fault ProofRecord} (opened : Opened asked block false created rest heard)
      (own : task.block = block.hash)
      (handed : Handed (.ofBlock block .inProcessing created) task rest ended) :
      Requested rules asked heard ended

variable {asked : String} {block : Block} {held : Bool} {created : Nat} {heard : Trace relaying}
  {ended : Except Fault ProofRecord} {rules : Epoch.Rules} {node : Endpoint}

theorem isProofed_not_mem_calls_of_looks (looks : ∀ event ∈ heard, event.call.looks = true)
    (hash : String) : .isProofed hash ∉ heard.calls := by
  intro asked
  obtain ⟨event, member, same⟩ := List.mem_map.mp asked
  have quiet := looks event member
  rw [same] at quiet
  cases quiet

theorem isProofed_not_mem (silent : ∀ hash, .isProofed hash ∉ heard.calls) (hash : String)
    (reply : Option (Except Fault Bool)) : ⟨.isProofed hash, reply⟩ ∉ heard :=
  fun member => silent hash (List.mem_map_of_mem member)

/-- A dispatch fails because no task can be made of the block, or makes one. -/
theorem dispatch_cases (run : (dispatch rules node block).run.Runs heard (some ended)) :
    (∃ fault, ended = .error fault ∧ Unmade rules.search node block heard fault ∧
      ∀ event ∈ heard, event.call.looks = true) ∨
    ∃ (middle rest : Trace relaying) (created : Nat) (task : BlockTask),
      heard = middle ++ ⟨.clock, some created⟩ :: rest ∧
      (∀ event ∈ middle, event.call.looks = true) ∧ task.block = block.hash ∧
      Handed (.ofBlock block .inProcessing created) task rest ended := by
  obtain ⟨fault, rfl, failed, looks⟩ | ⟨anchors, middle, _, rfl, found, anchored, run₁⟩ :=
    Action.ended_bind_of_asks (anchors_asks ..) run
  · exact .inl ⟨fault, rfl, unmade_of_anchors failed, looks⟩
  obtain ⟨fault, failed, rfl, same⟩ | ⟨task, built, run₂⟩ := Action.lift_bind_runs run₁
  · rw [List.append_nil]
    exact .inl ⟨fault, Option.some.inj same, unmade_of_build found failed, anchored⟩
  obtain ⟨created, rest, rfl, run₃⟩ := Action.clock_bind_ended run₂
  refine .inr ⟨middle, rest, created, task, rfl, anchored, BlockTask.build_ok built, ?_⟩
  obtain ⟨fault, rfl, rfl⟩ | ⟨_, _, rfl, run₄⟩ :=
    Action.question_bind_ended run₃ Program.runs_query
  · exact .unsaved fault
  obtain ⟨reply, _, rfl, run₅⟩ := Action.outcome_bind_ended run₄ Program.runs_query
  cases reply with
  | ok _ =>
    obtain ⟨rfl, ⟨⟩⟩ := Action.pure_runs run₅
    exact .published
  | error fault =>
    obtain ⟨other, rfl, rfl⟩ | ⟨marked, _, rfl, run₆⟩ :=
      Action.question_bind_ended run₅ Program.runs_query
    · exact .unmarked fault other
    · obtain ⟨rfl, ⟨⟩⟩ := Action.fail_runs run₆
      exact .undelivered fault marked

/-- The contract is asked once about a block, right after it was shown. -/
theorem told_eq {front back : Trace relaying} {told : Except Fault Bool}
    {reply : Option (Except Fault Bool)} {hash : String}
    (selected : ∀ event ∈ front, event.call.looks = true)
    (silent : ∀ hash, .isProofed hash ∉ Trace.calls back)
    (member : ⟨.isProofed hash, reply⟩ ∈
      front ++ ([⟨.block node (.hash (Blank.trim asked)), some (.ok (.found block))⟩] ++
        ⟨.isProofed block.hash, some told⟩ :: back)) : reply = some told := by
  obtain inFront | member := List.mem_append.mp member
  · have quiet := isProofed_not_mem_calls_of_looks selected
    exact absurd inFront (isProofed_not_mem quiet hash reply)
  obtain shown | member := List.mem_append.mp member
  · cases List.mem_singleton.mp shown
  obtain same | inBack := List.mem_cons.mp member
  · cases same
    rfl
  · exact absurd inBack (isProofed_not_mem silent hash reply)

/-- A request that is told that the contract holds no proof may still fail before there is a record
to write, and so may one that is told nothing. -/
theorem refused_of_told {front back : Trace relaying} {reply : Except Fault Bool} {fault : Fault}
    (selected : ∀ event ∈ front, event.call.looks = true)
    (anchored : ∀ event ∈ back, event.call.looks = true) (unheld : reply ≠ .ok true)
    (refusal : Refusal rules asked
      (front ++ ([⟨.block node (.hash (Blank.trim asked)), some (.ok (.found block))⟩] ++
        ⟨.isProofed block.hash, some reply⟩ :: back)) fault) :
    Requested rules asked
      (front ++ ([⟨.block node (.hash (Blank.trim asked)), some (.ok (.found block))⟩] ++
        ⟨.isProofed block.hash, some reply⟩ :: back)) (.error fault) := by
  refine .refused ?_ ?_ refusal
  · have early := Trace.prepares_of_looks selected
    have late := Trace.prepares_of_looks anchored
    refine List.forall_mem_append.mpr ⟨early, List.forall_mem_append.mpr ⟨?_, ?_⟩⟩
    · exact List.forall_mem_singleton.mpr rfl
    · exact List.forall_mem_cons.mpr ⟨rfl, late⟩
  · intro hash member
    have told := told_eq selected (isProofed_not_mem_calls_of_looks anchored) member
    exact unheld (Option.some.inj told).symm

/-- A request comes to its end in one of these ways. -/
theorem request_cases (run : (request rules asked).run.Runs heard (some ended)) :
    Requested rules asked heard ended := by
  unfold request at run
  dsimp only at run
  split at run
  · rename_i empty
    obtain ⟨rfl, ⟨⟩⟩ := Action.fail_runs run
    exact .refused (by simp) (by simp) (.blank empty)
  have unlooked {trace : Trace relaying} {fault : Fault}
      (looks : ∀ event ∈ trace, event.call.looks = true)
      (refusal : Refusal rules asked trace fault) : Requested rules asked trace (.error fault) :=
    .refused (Trace.prepares_of_looks looks) (fun hash =>
      isProofed_not_mem (isProofed_not_mem_calls_of_looks looks) hash _) refusal
  obtain ⟨fault, rfl, failed, looks⟩ | ⟨node, front, _, rfl, resolved, selected, run₁⟩ :=
    Action.ended_bind_of_asks (Node.resolve_asks ..) run
  · obtain ⟨cause, rfl, choice⟩ := choice_of_resolve failed
    exact unlooked looks (.unchosen choice)
  have chosen := chosen_of_resolve resolved
  obtain ⟨fault, rfl, failed, looks⟩ | ⟨block, _, _, rfl, shown, -, run₂⟩ :=
    Action.ended_bind_of_asks (P := (·.looks = true)) (Node.require_asks rfl) run₁
  · obtain ⟨reply, rfl, hidden⟩ := hidden_of_require failed
    exact unlooked (List.forall_mem_append.mpr ⟨selected, looks⟩) (.hidden chosen hidden)
  obtain rfl := Node.require_runs shown
  obtain ⟨fault, rfl, rfl⟩ | ⟨held, _, rfl, run₃⟩ :=
    Action.question_bind_ended run₂ Program.runs_query
  · exact refused_of_told selected (by simp) (fun impossible => nomatch impossible)
      (.untold chosen)
  split at run₃
  · rename_i isHeld
    subst isHeld
    obtain ⟨created, rest, rfl, run₄⟩ := Action.clock_bind_ended run₃
    have opened := @Opened.intro asked block true created rest node front [] selected (by simp)
    obtain ⟨fault, rfl, rfl⟩ | ⟨_, _, rfl, run₅⟩ :=
      Action.question_bind_ended run₄ Program.runs_query
    · exact .unsaved opened
    · obtain ⟨rfl, ⟨⟩⟩ := Action.pure_runs run₅
      exact .finished opened
  · rename_i unheld
    obtain rfl : held = false := by simpa using unheld
    obtain ⟨fault, rfl, unmade, looks⟩ |
      ⟨middle, rest, created, task, rfl, anchored, own, handed⟩ := dispatch_cases run₃
    · exact refused_of_told selected looks (fun impossible => nomatch impossible)
        (.unmade chosen unmade)
    · exact .handed (.intro selected anchored) own handed

/-- The ways in which a request may go. -/
inductive Way
  | refused
  | finished
  | dispatched
  | undelivered
  deriving DecidableEq, Repr

/-- A node showed a block under the hash that was asked for, and the contract said next whether it
holds a proof of it. -/
def Fetched (asked : String) (block : Block) (held : Bool) (heard : Trace relaying) : Prop :=
  ∃ node front back, heard =
    front ++ ([⟨.block node (.hash (Blank.trim asked)), some (.ok (.found block))⟩] ++
      ⟨.isProofed block.hash, some (.ok held)⟩ :: back)

/-- A record was stored and no other one changed; it is what a look-up of its hash shows, whatever
blanks are put around that. -/
structure Stored (asked : String) (before after : Store)
    (look : String → Except Fault (Option ProofRecord)) (record : ProofRecord) : Prop where
  stored : after.get? record.hash = some record
  others : ∀ hash, hash ≠ record.hash → after.get? hash = before.get? hash
  shown : record.hash = Blank.trim asked → ∀ left right, Blank.isBlankText left = true →
    Blank.isBlankText right = true → look (left ++ Blank.trim asked ++ right) = .ok (some record)

/-- How a request went: what it did to the records, what it handed to the bus, and how it ended. -/
inductive Outcome (rules : Epoch.Rules) (asked : String) (before after : Store)
    (look : String → Except Fault (Option ProofRecord)) (heard : Trace relaying) :
    Way → Except Fault ProofRecord → Prop
  /-- It failed for a reason, and did nothing. -/
  | refused {fault : Fault} (refusal : Refusal rules asked heard fault)
      (unchanged : after = before) (unpublished : heard.publications = []) :
      Outcome rules asked before after look heard .refused (.error fault)
  /-- The block is recorded as done. -/
  | finished {block : Block} {created : Nat} (fetched : Fetched asked block true heard)
      (stored : Stored asked before after look (.ofBlock block .done created))
      (unpublished : heard.publications = []) :
      Outcome rules asked before after look heard .finished (.ok (.ofBlock block .done created))
  /-- The block is recorded as in processing, and its task published. -/
  | dispatched {block : Block} {created : Nat} {task : BlockTask}
      (fetched : Fetched asked block false heard)
      (stored : Stored asked before after look (.ofBlock block .inProcessing created))
      (own : task.block = block.hash)
      (published : heard.publications = [(.block task, some (.ok ()))]) :
      Outcome rules asked before after look heard .dispatched
        (.ok (.ofBlock block .inProcessing created))
  /-- The task could not be published, and the block is recorded as failed. -/
  | undelivered {block : Block} {created : Nat} {task : BlockTask} {fault : Fault}
      (fetched : Fetched asked block false heard)
      (stored : Stored asked before after look (.ofBlock block .error created))
      (own : task.block = block.hash)
      (published : heard.publications = [(.block task, some (.error fault))]) :
      Outcome rules asked before after look heard .undelivered (.error fault)

variable {before after store : Store} {look : String → Except Fault (Option ProofRecord)}
  {rest : Trace relaying} {record : ProofRecord} {task : BlockTask}

/-- A request goes in one way at most. -/
theorem Outcome.unique {way way' : Way}
    (outcome : Outcome rules asked before after look heard way ended)
    (outcome' : Outcome rules asked before after look heard way' ended) : way = way' := by
  cases outcome with
  | refused refusal unchanged unpublished =>
    cases outcome' with
    | refused => rfl
    | undelivered fetched stored own published => cases unpublished.symm.trans published
  | finished fetched stored unpublished =>
    generalize same : (Except.ok (.ofBlock _ _ _) : Except Fault ProofRecord) = ended at outcome'
    cases outcome' with
    | refused => cases same
    | finished => rfl
    | dispatched fetched stored own published => cases unpublished.symm.trans published
    | undelivered => cases same
  | dispatched fetched stored own published =>
    generalize same : (Except.ok (.ofBlock _ _ _) : Except Fault ProofRecord) = ended at outcome'
    cases outcome' with
    | refused => cases same
    | finished fetched stored unpublished => cases unpublished.symm.trans published
    | dispatched => rfl
    | undelivered => cases same
  | undelivered fetched stored own published =>
    cases outcome' with
    | refused refusal unchanged unpublished => cases unpublished.symm.trans published
    | undelivered => rfl

theorem Store.after_of_prepares {event : Event relaying} (prepares : event.call.prepares = true) :
    store.after event = store := by
  obtain ⟨call, reply⟩ := event
  cases call <;> first | rfl | cases prepares

theorem Store.afterAll_of_prepares (quiet : ∀ event ∈ heard, event.call.prepares = true) :
    store.afterAll heard = store := by
  induction heard with
  | nil => rfl
  | cons event heard ih =>
    obtain ⟨prepares, later⟩ := List.forall_mem_cons.mp quiet
    rw [Store.afterAll_cons, Store.after_of_prepares prepares, ih later]

/-- All that comes before the record is written is quiet. -/
theorem Opened.split (opened : Opened asked block held created rest heard) :
    ∃ front, heard = front ++ rest ∧ ∀ event ∈ front, event.call.prepares = true := by
  obtain @⟨node, front, middle, selected, anchored⟩ := opened
  refine ⟨front ++ ([⟨.block node (.hash (Blank.trim asked)), some (.ok (.found block))⟩] ++
    ⟨.isProofed block.hash, some (.ok held)⟩ :: (middle ++ [⟨.clock, some created⟩])), ?_, ?_⟩
  · rw [List.append_cons middle, List.append_assoc front]
    rfl
  · have early := Trace.prepares_of_looks selected
    have late := Trace.prepares_of_looks anchored
    refine List.forall_mem_append.mpr ⟨early, List.forall_mem_append.mpr ⟨?_, ?_⟩⟩
    · exact List.forall_mem_singleton.mpr rfl
    · refine List.forall_mem_cons.mpr ⟨rfl, List.forall_mem_append.mpr ⟨late, ?_⟩⟩
      exact List.forall_mem_singleton.mpr rfl

theorem Opened.afterAll (opened : Opened asked block held created rest heard) :
    store.afterAll heard = store.afterAll rest := by
  obtain ⟨front, rfl, quiet⟩ := opened.split
  rw [Store.afterAll_append, Store.afterAll_of_prepares quiet]

theorem Opened.publications (opened : Opened asked block held created rest heard) :
    heard.publications = rest.publications := by
  obtain ⟨front, rfl, quiet⟩ := opened.split
  rw [Trace.publications_append, Trace.publications_of_prepares quiet, List.nil_append]

theorem Opened.kept (opened : Opened asked block held created rest heard)
    (kept : Store.Kept Store.answers store heard) : Store.Kept Store.answers store rest := by
  obtain ⟨front, rfl, quiet⟩ := opened.split
  have both := Store.kept_append.mp kept
  rw [Store.afterAll_of_prepares quiet] at both
  exact both.2

theorem Opened.fetched (opened : Opened asked block held created rest heard) :
    Fetched asked block held heard := by
  obtain ⟨selected, anchored⟩ := opened
  exact ⟨_, _, _, rfl⟩

/-- The contract was asked once before the record is written. -/
theorem Opened.told_iff (opened : Opened asked block held created rest heard)
    (silent : ∀ hash, .isProofed hash ∉ rest.calls) :
    (∃ hash, ⟨.isProofed hash, some (.ok true)⟩ ∈ heard) ↔ held = true := by
  obtain @⟨node, front, middle, selected, anchored⟩ := opened
  constructor
  · rintro ⟨hash, member⟩
    have quiet : ∀ hash,
        .isProofed hash ∉ Trace.calls (middle ++ ⟨.clock, some created⟩ :: rest) := by
      intro hash
      simp [silent hash, isProofed_not_mem_calls_of_looks anchored hash]
    have told := told_eq selected quiet member
    exact (Except.ok.inj (Option.some.inj told)).symm
  · rintro rfl
    exact ⟨block.hash, List.mem_append_right _ (List.mem_append_right _ List.mem_cons_self)⟩

/-- A row that keeps one record as it is stored shows it. -/
theorem stored_of_get? (shows : ∀ padded, look padded = .ok (after.get? (Blank.trim padded)))
    (get? : ∀ hash, after.get? hash =
      if hash = record.hash then some record else before.get? hash) :
    Stored asked before after look record := by
  have stored : after.get? record.hash = some record := by rw [get?, if_pos rfl]
  refine ⟨stored, fun hash other => by rw [get?, if_neg other], ?_⟩
  intro named left right leftBlank rightBlank
  rw [shows, Blank.trim_padded asked leftBlank rightBlank, ← named, stored]

theorem get?_marked_put (record : ProofRecord) (status : ProofStatus) (marked : ProofRecord) :
    ∀ hash, ((store.put record).after ⟨.mark record.hash status, some (.ok marked)⟩).get? hash =
      if hash = record.hash then some { record with status := status } else store.get? hash := by
  have there : (store.put record).get? record.hash = some record := by
    rw [Store.get?_put, if_pos rfl]
  obtain ⟨next, marks, get?⟩ := Store.mark_of_get? there status
  intro hash
  have after : (store.put record).after ⟨.mark record.hash status, some (.ok marked)⟩ = next := by
    simp only [Store.after, marks]
  rw [after, get?, Store.get?_put]
  split
  · rfl
  · rfl

theorem Handed.silent (handed : Handed record task rest ended) (hash : String) :
    .isProofed hash ∉ rest.calls := by
  cases handed <;> simp

/-- A request over records in memory goes in one of the four ways, and is told that the contract
holds a proof exactly if it goes in the second. -/
theorem Requested.outcome (requested : Requested rules asked heard ended)
    (kept : Store.Kept Store.answers store heard)
    (shows : ∀ padded, look padded = .ok ((store.afterAll heard).get? (Blank.trim padded))) :
    ∃ way, Outcome rules asked store (store.afterAll heard) look heard way ended ∧
      (way = .finished ↔ ∃ hash, ⟨.isProofed hash, some (.ok true)⟩ ∈ heard) := by
  cases requested with
  | refused quiet untold refusal =>
    have unchanged : store.afterAll heard = store := Store.afterAll_of_prepares quiet
    exact ⟨.refused, .refused refusal unchanged (Trace.publications_of_prepares quiet),
      by simpa using untold⟩
  | unsaved opened => cases (opened.kept kept).1
  | @finished block created opened =>
    have told := (opened.told_iff (by simp)).mpr rfl
    have stored : Stored asked store (store.afterAll heard) look
        (.ofBlock block .done created) := by
      apply stored_of_get? shows
      rw [opened.afterAll]
      exact Store.get?_put store _
    exact ⟨.finished, .finished opened.fetched stored opened.publications,
      fun _ => told, fun _ => rfl⟩
  | @handed rest block created task ended opened own handed =>
    have untold : ¬ ∃ hash, ⟨.isProofed hash, some (.ok true)⟩ ∈ heard := by
      rw [opened.told_iff handed.silent]
      exact Bool.false_ne_true
    have keeps := opened.kept kept
    cases handed with
    | unsaved fault => cases keeps.1
    | published =>
      have stored : Stored asked store (store.afterAll heard) look
          (.ofBlock block .inProcessing created) := by
        apply stored_of_get? shows
        rw [opened.afterAll]
        exact Store.get?_put store _
      exact ⟨.dispatched, .dispatched opened.fetched stored own opened.publications,
        by simpa using untold⟩
    | undelivered fault marked =>
      have stored : Stored asked store (store.afterAll heard) look
          (.ofBlock block .error created) := by
        apply stored_of_get? shows
        rw [opened.afterAll]
        exact get?_marked_put (.ofBlock block .inProcessing created) .error marked
      exact ⟨.undelivered, .undelivered opened.fetched stored own opened.publications,
        by simpa using untold⟩
    | unmarked fault other =>
      -- Records in memory can be marked right after they were saved.
      have there : (store.put (.ofBlock block .inProcessing created)).get? block.hash =
          some (.ofBlock block .inProcessing created) := by
        rw [Store.get?_put]
        exact if_pos rfl
      cases Store.marked there keeps.2.2.1

/-- The way in which a request over records in memory goes is the only one. -/
theorem Requested.existsUnique (requested : Requested rules asked heard ended)
    (kept : Store.Kept Store.answers before heard) (final : after = before.afterAll heard)
    (shows : ∀ padded, look padded = .ok (after.get? (Blank.trim padded))) :
    (∃! way, Outcome rules asked before after look heard way ended) ∧
    (Outcome rules asked before after look heard .finished ended ↔
      ∃ hash, ⟨.isProofed hash, some (.ok true)⟩ ∈ heard) := by
  subst final
  obtain ⟨way, outcome, told⟩ := requested.outcome kept shows
  refine ⟨⟨way, outcome, fun other outcome' => outcome'.unique outcome⟩, ?_⟩
  rw [← told]
  constructor
  · exact fun finished => outcome.unique finished
  · rintro rfl
    exact outcome

theorem request_blank (rules : Epoch.Rules) (blank : Blank.isBlankText asked = true) :
    request rules asked =
      Action.fail ⟨.invalidArgument, "Block hash must not be empty"⟩ := by
  have empty : Blank.trim asked = "" := by
    rw [Blank.trim, Blank.trim_of_all_blank blank]
  unfold request
  exact if_pos empty

/-- Surroundings that keep the records in memory, and answer all else as they like. -/
structure InMemory {σ : Type} (records : σ → Store)
    (answer : (call : Call) → σ → call.Answer × σ) : Prop where
  answers : ∀ call s, (records s).answers ⟨call, some (answer call s).1⟩ = true
  after : ∀ call s, records (answer call s).2 = (records s).after ⟨call, some (answer call s).1⟩

section Surroundings

variable {σ : Type} {records : σ → Store} {answer : (call : Call) → σ → call.Answer × σ}

theorem InMemory.kept {α : Type} (memory : InMemory records answer) (p : Relay α) (s : σ) :
    Store.Kept Store.answers (records s) (p.transcript answer s) := by
  induction p generalizing s with
  | done a => trivial
  | ask call next ih =>
    have later := ih (answer call s).1 (answer call s).2
    exact ⟨memory.answers call s, memory.after call s ▸ later⟩

theorem InMemory.afterAll {α : Type} (memory : InMemory records answer) (p : Relay α) (s : σ) :
    records (p.run answer s).2 = (records s).afterAll (p.transcript answer s) := by
  induction p generalizing s with
  | done a => rfl
  | ask call next ih =>
    have later := ih (answer call s).1 (answer call s).2
    exact later.trans (congrArg (Store.afterAll · _) (memory.after call s))

/-- A look-up shows the record of the hash between the blanks. -/
theorem InMemory.status_eq (memory : InMemory records answer) (padded : String) (s : σ) :
    ((status padded).run.run answer s).1 = .ok ((records s).get? (Blank.trim padded)) :=
  Store.fetched (memory.answers (.fetch (Blank.trim padded)) s)

/-- Whatever runs as a request does goes in exactly one of the four ways. -/
theorem InMemory.existsUnique (memory : InMemory records answer)
    {p : Relay (Except Fault ProofRecord)}
    (requests : ∀ {heard ended}, p.Runs heard (some ended) → Requested rules asked heard ended)
    (s : σ) :
    let heard := p.transcript answer s
    let ended := (p.run answer s).1
    let t := (p.run answer s).2
    let look := fun padded => ((status padded).run.run answer t).1
    (∃! way, Outcome rules asked (records s) (records t) look heard way ended) ∧
    (Outcome rules asked (records s) (records t) look heard .finished ended ↔
      ∃ hash, ⟨.isProofed hash, some (.ok true)⟩ ∈ heard) := by
  intro heard ended t look
  have requested : Requested rules asked heard ended :=
    requests (Program.runs_transcript (I := relaying) answer p s)
  have shows (padded : String) : look padded = .ok ((records t).get? (Blank.trim padded)) :=
    memory.status_eq padded t
  exact requested.existsUnique (memory.kept p s) (memory.afterAll p s) shows

/-- A request is all or nothing, whatever the nodes, the contract and the bus answer: it goes in
exactly one of the four ways, and in the first only for a reason. It goes in the second exactly if
the contract says that it holds a proof, and one that names no block asks nobody. -/
theorem request_all_or_nothing (memory : InMemory records answer) (rules : Epoch.Rules)
    (asked : String) (s : σ) :
    let heard := (request rules asked).run.transcript answer s
    let ended := ((request rules asked).run.run answer s).1
    let t := ((request rules asked).run.run answer s).2
    let look := fun padded => ((status padded).run.run answer t).1
    (∃! way, Outcome rules asked (records s) (records t) look heard way ended) ∧
    (Outcome rules asked (records s) (records t) look heard .finished ended ↔
      ∃ hash, ⟨.isProofed hash, some (.ok true)⟩ ∈ heard) ∧
    (Blank.isBlankText asked = true →
      heard = [] ∧ ended = .error ⟨.invalidArgument, "Block hash must not be empty"⟩) := by
  intro heard ended t look
  have goes := memory.existsUnique (p := (request rules asked).run) request_cases s
  refine ⟨goes.1, goes.2, fun blank => ?_⟩
  simp only [heard, ended, request_blank rules blank]
  exact ⟨rfl, rfl⟩

end Surroundings

/-- Surroundings with some blocks, a contract that holds proofs of some, and a bus that gives one
answer, over records in memory. -/
def desk (blocks : List Block) (proofed : List String) (bus : Except Fault Unit) :
    (call : Call) → Store → call.Answer × Store
  | .block _ id, store =>
      (.ok ((blocks.find? (id.Names ·)).elim (.absent .unknown) .found), store)
  | .head _, store => (.ok (blocks.foldl (max · ·.height) 0), store)
  | .isProofed hash, store => (.ok (proofed.contains hash), store)
  | .publish _, store => (bus, store)
  | .fetch hash, store => (.ok (store.get? hash), store)
  | .save record, store => (.ok (), store.put record)
  | .mark hash status, store =>
      match store.mark hash status with
      | .ok (record, marked) => (.ok record, marked)
      | .error fault => (.error fault, store)
  | .clock, store => ((0 : Nat), store)
  | .wait _, store | .note _, store => ((), store)
  | .checkpoint, store | .epochHashes _, store | .commit _ _ _, store | .submit _ _, store
  | .prove _, store => (.error ⟨.internal, "*"⟩, store)

theorem desk_inMemory (blocks : List Block) (proofed : List String) (bus : Except Fault Unit) :
    InMemory id (desk blocks proofed bus) where
  answers call store := by
    cases call
    case fetch hash => simp [desk, Store.answers]
    case mark hash status =>
      cases marks : store.mark hash status <;> simp [desk, Store.answers, marks]
    all_goals rfl
  after call store := by
    cases call
    case publish task => rfl
    case mark hash status =>
      cases marks : store.mark hash status <;> simp [desk, Store.after, marks]
    all_goals rfl

/-- A block that is asked for with blanks around its hash is recorded, and its task not
delivered. -/
theorem request_all_or_nothing_undelivered :
    let answer := desk Epoch.skippedStart.flatten [] (.error ⟨.bus, "no responders"⟩)
    let asked := (request ⟨⟨1, 3⟩, ⟨1, 2⟩⟩ " H6\n").run
    let t := (asked.run answer Store.empty).2
    let look := fun padded => ((status padded).run.run answer t).1
    (∃! way, Outcome ⟨⟨1, 3⟩, ⟨1, 2⟩⟩ " H6\n" Store.empty t look
      (asked.transcript answer Store.empty) way (.error ⟨.bus, "no responders"⟩)) ∧
    look "\tH6 " = .ok (some ⟨"H6", 6, "H3", 0, .error, 0⟩) := by
  intro answer asked t look
  have memory := desk_inMemory Epoch.skippedStart.flatten [] (.error ⟨.bus, "no responders"⟩)
  obtain ⟨way, -⟩ := request_all_or_nothing memory ⟨⟨1, 3⟩, ⟨1, 2⟩⟩ " H6\n" Store.empty
  exact ⟨way, rfl⟩

end Proof

end HeaderRelay
