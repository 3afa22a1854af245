import HeaderRelay.Proof.Store
import HeaderRelay.Proofs.Trace
import Mathlib.Logic.Function.Basic

set_option autoImplicit false

namespace HeaderRelay

/-- The record that a question writes: the hash it is kept under, and its status. -/
def Call.writes : Call → Option (String × ProofStatus)
  | .save record => some (record.hash, record.status)
  | .mark hash status => some (hash, status)
  | _ => none

namespace Interleaving

open Proof (Store)

/-- What is shared: the records, and the blocks that the contract holds proofs for. -/
structure Shared where
  store : Store
  proofed : List String

def Shared.Done (shared : Shared) (hash : String) : Prop :=
  ∃ record, shared.store.get? hash = some record ∧ record.status = .done

/-- What is shared after a question and its answer, if that may be the answer. The contract knows
which block a proof is of. -/
def Shared.respond? (about : String → String → String) (shared : Shared) :
    Event relaying → Option Shared
  | ⟨.fetch hash, some (.ok found)⟩ =>
      if found = shared.store.get? hash then some shared else none
  | ⟨.fetch _, some (.error _)⟩ => none
  | ⟨.save record, some (.ok ())⟩ => some { shared with store := shared.store.put record }
  | ⟨.save _, some (.error _)⟩ => none
  | ⟨.mark hash status, some reply⟩ =>
      match reply, shared.store.mark hash status with
      | .ok record, .ok (record', store) =>
          if record = record' then some { shared with store := store } else none
      | .error fault, .error fault' => if fault = fault' then some shared else none
      | _, _ => none
  | ⟨.isProofed hash, some (.ok held)⟩ =>
      if held = decide (hash ∈ shared.proofed) then some shared else none
  | ⟨.submit journal proof, some (.ok ())⟩ =>
      some { shared with proofed := about journal proof :: shared.proofed }
  | ⟨_, some _⟩ => some shared
  | ⟨_, none⟩ => none

/-- One entry of a schedule. -/
inductive Entry (α : Type)
  /-- An actor asks its next question, and is answered. -/
  | asked (actor : α) (event : Event relaying)
  /-- The contract accepts a proof of a block from elsewhere, or one whose receipt is lost. -/
  | proved (hash : String)

/-- Some actors with what they still have to do, and what they share. -/
structure System (α : Type) where
  shared : Shared
  program : α → Relay Unit

namespace System

variable {α : Type} [DecidableEq α]

/-- The system after an entry, if it may come next. -/
def step? (about : String → String → String) (system : System α) : Entry α → Option (System α)
  | .asked actor event =>
      match system.program actor with
      | .done _ => none
      | .ask call next =>
          if same : event.call = call then
            match event.reply, system.shared.respond? about event with
            | some reply, some shared =>
                some ⟨shared, Function.update system.program actor (next (same ▸ reply))⟩
            | _, _ => none
          else none
  | .proved hash =>
      some { system with
        shared := { system.shared with proofed := hash :: system.shared.proofed } }

/-- The system after a schedule, if it is one of the system. -/
def run? (about : String → String → String) (system : System α) :
    List (Entry α) → Option (System α)
  | [] => some system
  | entry :: schedule => (system.step? about entry).bind (run? about · schedule)

end System

def asks {α : Type} [DecidableEq α] (actor : α) : List (Entry α) → Trace relaying
  | [] => []
  | .asked other event :: schedule =>
      if other = actor then event :: asks actor schedule else asks actor schedule
  | .proved _ :: schedule => asks actor schedule

variable {α : Type} [DecidableEq α] {about : String → String → String}
  {system later : System α} {actor : α} {event : Event relaying} {shared next : Shared}
  {schedule before after : List (Entry α)} {entry : Entry α} {hash : String}

/-- A record that is marked gets the status, and no other record changes. -/
theorem get?_mark (hash : String) {store marked : Store} {key : String} {status : ProofStatus}
    {record : ProofRecord} (found : store.mark key status = .ok (record, marked)) :
    record.status = status ∧
      marked.get? hash = if hash = key then some record else store.get? hash := by
  unfold Store.mark at found
  split at found
  · cases found
  · cases found
    exact ⟨rfl, Store.lookup_replace key hash _ _⟩

/-- A question changes the record of a hash only if it writes it. -/
theorem get?_of_respond? (responds : shared.respond? about event = some next) :
    next.store.get? hash = shared.store.get? hash ∨
      ∃ record, event.call.writes = some (hash, record.status) ∧
        next.store.get? hash = some record := by
  unfold Shared.respond? at responds
  split at responds
  case h_3 record =>
    cases responds
    by_cases same : hash = record.hash
    · subst same
      exact .inr ⟨record, rfl, by rw [Store.get?_put, if_pos rfl]⟩
    · exact .inl (by rw [Store.get?_put, if_neg same])
  case h_5 key status reply =>
    split at responds
    · rename_i record record' marked found
      split at responds
      · rename_i same
        subst same
        cases responds
        obtain ⟨rfl, get?⟩ := get?_mark hash found
        by_cases same : hash = key
        · subst same
          exact .inr ⟨record, rfl, by rw [get?, if_pos rfl]⟩
        · exact .inl (by rw [get?, if_neg same])
      · cases responds
    · split at responds <;> cases responds
      exact .inl rfl
    · cases responds
  all_goals first
    | (split at responds <;> cases responds <;> exact .inl rfl)
    | (cases responds <;> exact .inl rfl)

theorem proofed_of_respond? (responds : shared.respond? about event = some next) :
    ∀ hash ∈ shared.proofed, hash ∈ next.proofed := by
  intro hash held
  unfold Shared.respond? at responds
  split at responds
  case h_5 =>
    split at responds
    · split at responds <;> cases responds
      exact held
    · split at responds <;> cases responds
      exact held
    · cases responds
  case h_7 =>
    cases responds
    exact List.mem_cons_of_mem _ held
  all_goals first
    | (split at responds <;> cases responds <;> exact held)
    | (cases responds <;> exact held)

theorem fetch_of_respond? {found : Option ProofRecord}
    (responds : shared.respond? about ⟨.fetch hash, some (.ok found)⟩ = some next) :
    found = shared.store.get? hash := by
  simp only [Shared.respond?] at responds
  split at responds
  · assumption
  · cases responds

theorem isProofed_of_respond? {held : Bool}
    (responds : shared.respond? about ⟨.isProofed hash, some (.ok held)⟩ = some next) :
    held = decide (hash ∈ shared.proofed) ∧ next = shared := by
  simp only [Shared.respond?] at responds
  split at responds
  · rename_i same
    cases responds
    exact ⟨same, rfl⟩
  · cases responds

theorem submit_of_respond? {journal proof : String}
    (responds : shared.respond? about ⟨.submit journal proof, some (.ok ())⟩ = some next) :
    about journal proof ∈ next.proofed := by
  cases responds
  exact List.mem_cons_self

theorem step?_asked (stepped : system.step? about (.asked actor event) = some later) :
    ∃ call rest reply shared, system.program actor = .ask call rest ∧
      event = ⟨call, some reply⟩ ∧
      system.shared.respond? about ⟨call, some reply⟩ = some shared ∧
      later = ⟨shared, Function.update system.program actor (rest reply)⟩ := by
  obtain ⟨asked, reply⟩ := event
  simp only [System.step?] at stepped
  split at stepped
  · cases stepped
  · rename_i call rest asks
    split at stepped
    · rename_i same
      subst same
      cases reply with
      | none => cases stepped
      | some reply =>
        cases responds : system.shared.respond? about ⟨asked, some reply⟩ with
        | none =>
          rw [responds] at stepped
          cases stepped
        | some shared =>
          rw [responds] at stepped
          cases stepped
          exact ⟨_, rest, reply, shared, asks, rfl, responds, rfl⟩
    · cases stepped

theorem run?_append (ran : system.run? about (before ++ after) = some later) :
    ∃ past, system.run? about before = some past ∧ past.run? about after = some later := by
  induction before generalizing system with
  | nil => exact ⟨system, rfl, ran⟩
  | cons entry before ih =>
    obtain ⟨middle, stepped, ran⟩ := Option.bind_eq_some_iff.mp ran
    obtain ⟨past, ran, rest⟩ := ih ran
    exact ⟨past, Option.bind_eq_some_iff.mpr ⟨middle, stepped, ran⟩, rest⟩

theorem run?_cons (ran : system.run? about (entry :: after) = some later) :
    ∃ next, system.step? about entry = some next ∧ next.run? about after = some later :=
  Option.bind_eq_some_iff.mp ran

/-- A proof that the contract holds it holds ever after. -/
theorem proofed_of_run? (ran : system.run? about schedule = some later) :
    ∀ hash ∈ system.shared.proofed, hash ∈ later.shared.proofed := by
  induction schedule generalizing system with
  | nil =>
    cases ran
    exact fun _ held => held
  | cons entry schedule ih =>
    intro hash held
    obtain ⟨middle, stepped, rest⟩ := run?_cons ran
    refine ih rest hash ?_
    cases entry with
    | asked actor event =>
      obtain ⟨call, _, reply, shared, _, _, responds, rfl⟩ := step?_asked stepped
      exact proofed_of_respond? responds hash held
    | proved other =>
      cases stepped
      exact List.mem_cons_of_mem _ held

/-- What an actor asks is a run of its program, up to what it still has to do. -/
theorem asks_runs {trace : Trace relaying} {outcome : Option Unit}
    (ran : system.run? about schedule = some later)
    (rest : (later.program actor).Runs trace outcome) :
    (system.program actor).Runs (asks actor schedule ++ trace) outcome := by
  induction schedule generalizing system with
  | nil =>
    cases ran
    exact rest
  | cons entry schedule ih =>
    obtain ⟨middle, stepped, ran⟩ := run?_cons ran
    have run := ih ran
    cases entry with
    | proved hash =>
      cases stepped
      exact run
    | asked other event =>
      obtain ⟨call, more, reply, shared, program, rfl, _, rfl⟩ := step?_asked stepped
      by_cases same : other = actor
      · subst same
        dsimp only at run
        rw [Function.update_self] at run
        rw [asks, if_pos rfl, program]
        exact .answered reply run
      · dsimp only at run
        rw [Function.update_of_ne (Ne.symm same)] at run
        rw [asks, if_neg same]
        exact run

@[simp] theorem asks_append (actor : α) (first second : List (Entry α)) :
    asks actor (first ++ second) = asks actor first ++ asks actor second := by
  induction first with
  | nil => rfl
  | cons entry first ih =>
    cases entry with
    | asked other event =>
      by_cases same : other = actor
      · simp [asks, same, ih]
      · simp [asks, same, ih]
    | proved hash => exact ih

@[simp] theorem asks_asked_self (actor : α) (event : Event relaying) (schedule : List (Entry α)) :
    asks actor (.asked actor event :: schedule) = event :: asks actor schedule :=
  if_pos rfl

/-- What an actor asks stands in the schedule, with what it asks before and after. -/
theorem asks_split {front back : Trace relaying}
    (split : asks actor schedule = front ++ event :: back) :
    ∃ before after, schedule = before ++ .asked actor event :: after ∧
      asks actor before = front ∧ asks actor after = back := by
  induction schedule generalizing front with
  | nil => cases front <;> cases split
  | cons entry schedule ih =>
    cases entry with
    | proved hash =>
      obtain ⟨before, after, rfl, ahead, behind⟩ := ih split
      exact ⟨.proved hash :: before, after, rfl, ahead, behind⟩
    | asked other first =>
      rw [asks] at split
      split at split
      · rename_i same
        subst same
        cases front with
        | nil =>
          cases split
          exact ⟨[], schedule, rfl, rfl, rfl⟩
        | cons _ front =>
          obtain ⟨rfl, inside⟩ := List.cons.inj split
          obtain ⟨before, after, rfl, ahead, behind⟩ := ih inside
          exact ⟨.asked other first :: before, after, rfl, by rw [asks, if_pos rfl, ahead],
            behind⟩
      · rename_i different
        obtain ⟨before, after, rfl, ahead, behind⟩ := ih split
        exact ⟨.asked other first :: before, after, rfl, by rw [asks, if_neg different, ahead],
          behind⟩

/-- An actor has only one first question in a schedule. -/
theorem asks_first_unique {before' after' : List (Entry α)} {event' : Event relaying}
    (same : before ++ .asked actor event :: after = before' ++ .asked actor event' :: after')
    (none : asks actor before = []) (none' : asks actor before' = []) : before = before' := by
  induction before generalizing before' with
  | nil =>
    cases before' with
    | nil => rfl
    | cons entry before' =>
      obtain ⟨rfl, -⟩ := List.cons.inj same
      rw [asks_asked_self] at none'
      cases none'
  | cons entry before ih =>
    cases before' with
    | nil =>
      obtain ⟨rfl, -⟩ := List.cons.inj same
      rw [asks_asked_self] at none
      cases none
    | cons entry' before' =>
      obtain ⟨rfl, rest⟩ := List.cons.inj same
      have quiet {entry : Entry α} {schedule : List (Entry α)}
          (none : asks actor (entry :: schedule) = []) : asks actor schedule = [] := by
        have both := asks_append actor [entry] schedule
        rw [List.singleton_append, none] at both
        exact (List.append_eq_nil_iff.mp both.symm).2
      rw [ih rest (quiet none) (quiet none')]

/-- The moment at which an actor asked something. -/
theorem run?_asked {front back : Trace relaying}
    (ran : system.run? about schedule = some later)
    (split : asks actor schedule = front ++ event :: back) :
    ∃ before after, ∃ past next : System α, schedule = before ++ .asked actor event :: after ∧
      asks actor after = back ∧ system.run? about before = some past ∧
      past.shared.respond? about event = some next.shared ∧
      next.run? about after = some later := by
  obtain ⟨before, after, rfl, -, behind⟩ := asks_split split
  obtain ⟨past, ahead, fromPast⟩ := run?_append ran
  obtain ⟨next, stepped, fromNext⟩ := run?_cons fromPast
  obtain ⟨_, _, _, _, _, rfl, responds, rfl⟩ := step?_asked stepped
  exact ⟨before, after, past, _, rfl, behind, ahead, responds, fromNext⟩

/-- What somebody asked was answered from what was shared then, and a proof that the contract held
after it is still held. -/
theorem exists_responds (ran : system.run? about schedule = some later)
    (member : event ∈ asks actor schedule) :
    ∃ past next : Shared, past.respond? about event = some next ∧
      ∀ hash ∈ next.proofed, hash ∈ later.shared.proofed := by
  obtain ⟨front, back, split⟩ := List.append_of_mem member
  obtain ⟨_, _, past, next, _, _, _, responds, rest⟩ := run?_asked ran split
  exact ⟨past.shared, next.shared, responds, proofed_of_run? rest⟩

/-- What an actor asks next comes after all it has asked, in a run of its program. -/
theorem asks_next_runs {next : System α} (ran : system.run? about schedule = some later)
    (stepped : later.step? about (.asked actor event) = some next) :
    (system.program actor).Runs (asks actor schedule ++ [⟨event.call, none⟩]) none := by
  obtain ⟨call, rest, reply, _, program, rfl, _⟩ := step?_asked stepped
  refine asks_runs ran ?_
  rw [program]
  exact .broken call rest

end Interleaving

end HeaderRelay
