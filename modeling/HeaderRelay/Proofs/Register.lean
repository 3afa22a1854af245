import HeaderRelay.Proofs.Trace

set_option autoImplicit false

namespace HeaderRelay

def Call.commits : Call → Bool
  | .commit _ _ _ => true
  | _ => false

theorem countP_commits {trace : Trace relaying}
    (reads : ∀ event ∈ trace, event.call.commits = false) :
    trace.countP (·.call.commits) = 0 := by
  apply List.countP_eq_zero.mpr
  intro event member
  simp only [reads event member, Bool.false_eq_true, not_false_eq_true]

/-- What the contract holds: the height of the checkpoint, and hashes saved for heights. -/
structure Register where
  checkpoint : Nat
  hashes : Nat → Option EpochHashes

namespace Register

/-- Saves the hashes of a checkpoint and moves to it. -/
def store (register : Register) (c : Checkpoint) : Register where
  checkpoint := c.height
  hashes height :=
    if height = c.height then some ⟨c.previous, c.current⟩ else register.hashes height

/-- Whether a read that did not fail gave what the contract holds. -/
def answers (register : Register) : Event relaying → Bool
  | ⟨.checkpoint, some (.ok height)⟩ => height = register.checkpoint
  | ⟨.epochHashes height, some (.ok saved)⟩ => register.hashes height = some saved
  | _ => true

theorem answers_checkpoint {register : Register} {height : Nat}
    (answered : register.answers ⟨.checkpoint, some (.ok height)⟩ = true) :
    height = register.checkpoint :=
  of_decide_eq_true answered

theorem answers_epochHashes {register : Register} {height : Nat} {saved : EpochHashes}
    (answered : register.answers ⟨.epochHashes height, some (.ok saved)⟩ = true) :
    register.hashes height = some saved :=
  of_decide_eq_true answered

/-- One question, with the checkpoints that it stored. -/
inductive Turn (register : Register) : Event relaying → List Checkpoint → Register → Prop
  | read {event : Event relaying} (reads : event.call.commits = false)
      (answers : register.answers event = true) : Turn register event [] register
  | stored (c : Checkpoint) (reply : Option (Except Fault Unit)) :
      Turn register ⟨.commit c.previous c.current c.height, reply⟩ [c] (register.store c)
  | lost (c : Checkpoint) (reply : Option (Except Fault Unit)) (failed : reply ≠ some (.ok ())) :
      Turn register ⟨.commit c.previous c.current c.height, reply⟩ [] register

/-- A row of questions, with the checkpoints that they stored. -/
inductive Follows : Register → Trace relaying → List Checkpoint → Register → Prop
  | nil (register : Register) : Follows register [] [] register
  | cons {register next last : Register} {event : Event relaying} {trace : Trace relaying}
      {stored later : List Checkpoint} (turn : Turn register event stored next)
      (rest : Follows next trace later last) :
      Follows register (event :: trace) (stored ++ later) last

variable {register last : Register} {trace before after : Trace relaying}
  {stored : List Checkpoint} {event : Event relaying}

theorem Follows.append (follows : register.Follows (before ++ after) stored last) :
    ∃ first second between, stored = first ++ second ∧
      register.Follows before first between ∧ between.Follows after second last := by
  induction before generalizing register stored with
  | nil => exact ⟨[], stored, register, rfl, .nil register, follows⟩
  | cons event before ih =>
    cases follows with
    | cons turn rest =>
      obtain ⟨first, second, between, rfl, front, back⟩ := ih rest
      exact ⟨_, second, between, (List.append_assoc ..).symm, .cons turn front, back⟩

theorem Follows.trans {middle : Register} {first second : List Checkpoint}
    (front : register.Follows before first middle) (back : middle.Follows after second last) :
    register.Follows (before ++ after) (first ++ second) last := by
  induction front with
  | nil => exact back
  | cons turn rest ih =>
    rw [List.cons_append, List.append_assoc]
    exact .cons turn (ih back)

/-- Without a commit the contract stays as it is, and every read gives what it holds. -/
theorem Follows.of_reads (follows : register.Follows trace stored last)
    (reads : ∀ event ∈ trace, event.call.commits = false) :
    stored = [] ∧ last = register ∧ ∀ event ∈ trace, register.answers event = true := by
  induction follows with
  | nil => exact ⟨rfl, rfl, by simp⟩
  | cons turn rest ih =>
    obtain ⟨rfl, rfl, answers⟩ := ih fun event member =>
      reads event (List.mem_cons_of_mem _ member)
    cases turn with
    | read _ answered => exact ⟨rfl, rfl, List.forall_mem_cons.mpr ⟨answered, answers⟩⟩
    | stored c reply => cases reads _ List.mem_cons_self
    | lost c reply failed => cases reads _ List.mem_cons_self

theorem Follows.reads
    (reads : ∀ event ∈ trace, event.call.commits = false ∧ register.answers event = true) :
    register.Follows trace [] register := by
  induction trace with
  | nil => exact .nil register
  | cons event trace ih =>
    obtain ⟨⟨read, answers⟩, rest⟩ := List.forall_mem_cons.mp reads
    exact .cons (.read read answers) (ih rest)

/-- What a commit does: it stores its checkpoint, unless it did not succeed. -/
theorem Follows.of_commit {previous current : String} {height : Nat}
    {reply : Option (Except Fault Unit)}
    (follows : register.Follows (⟨.commit previous current height, reply⟩ :: trace) stored last) :
    (∃ later, stored = ⟨height, previous, current⟩ :: later ∧
      (register.store ⟨height, previous, current⟩).Follows trace later last) ∨
    (reply ≠ some (.ok ()) ∧ register.Follows trace stored last) := by
  cases follows with
  | cons turn rest =>
    cases turn with
    | read reads _ => cases reads
    | stored c => exact .inl ⟨_, rfl, rest⟩
    | lost c _ failed => exact .inr ⟨failed, rest⟩

theorem Follows.checkpoint_eq (follows : register.Follows trace stored last) :
    last.checkpoint = (stored.map Checkpoint.height).getLastD register.checkpoint := by
  induction follows with
  | nil => rfl
  | cons turn rest ih =>
    cases turn with
    | read => exact ih
    | lost => exact ih
    | stored c reply =>
      rw [ih, List.singleton_append, List.map_cons, List.getLastD_cons]
      rfl

end Register

end HeaderRelay
