import HeaderRelay.Epoch.Anchors
import HeaderRelay.Proofs.Lookup

set_option autoImplicit false

namespace HeaderRelay.Epoch

open Node (Shown Unknown Refused)

variable {node : Endpoint} {parent block : Block} {count offset : Nat} {trace : Trace relaying}
  {search : Search}

/-- A node showed a child of a block, so many heights above it. -/
structure Succeeds (node : Endpoint) (parent : Block) (offset : Nat) (child : Block)
    (trace : Trace relaying) : Prop where
  shown : Shown node (.height (parent.height + offset)) child trace
  links : child.prevHash = parent.hash

/-- A height above a block was looked at in vain: it has no block as far as the node knows, or one
with another parent. -/
def Passed (node : Endpoint) (parent : Block) (offset : Nat) (trace : Trace relaying) : Prop :=
  Unknown node (.height (parent.height + offset)) trace ∨
    ∃ other, Shown node (.height (parent.height + offset)) other trace ∧
      other.prevHash ≠ parent.hash

theorem Succeeds.mono {child : Block} {before : Trace relaying}
    (succeeds : Succeeds node parent offset child before) (sub : before ⊆ trace) :
    Succeeds node parent offset child trace :=
  ⟨sub succeeds.shown, succeeds.links⟩

theorem Passed.mono {before : Trace relaying} (passed : Passed node parent offset before)
    (sub : before ⊆ trace) : Passed node parent offset trace := by
  rcases passed with unknown | ⟨other, shown, links⟩
  · exact .inl (sub unknown)
  · exact .inr ⟨other, sub shown, links⟩

theorem successorFrom_step {found : Option Block}
    (run : (successorFrom node parent (count + 1) offset).run.Runs trace (some (.ok found))) :
    (∃ child, found = some child ∧ Succeeds node parent offset child trace) ∨
    ∃ before after, trace = before ++ after ∧ Passed node parent offset before ∧
      (successorFrom node parent count (offset + 1)).run.Runs after (some (.ok found)) := by
  obtain ⟨candidate, _, after, rfl, asked, rest⟩ := Action.runs_bind_ok run
  obtain rfl := Node.produced?_runs asked
  cases candidate with
  | none =>
    have passed : Passed node parent offset
        [Node.seenAt node (parent.height + offset) none] := .inl List.mem_cons_self
    exact .inr ⟨_, after, rfl, passed, rest⟩
  | some candidate =>
    have shown : Shown node (.height (parent.height + offset)) candidate
        [Node.seenAt node (parent.height + offset) (some candidate)] := List.mem_cons_self
    dsimp only at rest
    split at rest
    · rename_i links
      obtain ⟨rfl, same⟩ := Action.pure_runs rest
      cases same
      exact .inl ⟨candidate, rfl, shown, links⟩
    · rename_i links
      exact .inr ⟨_, after, rfl, .inr ⟨candidate, shown, links⟩, rest⟩

/-- A search was shown the first child within its heights, or passed by all of them. -/
theorem successorFrom_runs {found : Option Block}
    (run : (successorFrom node parent count offset).run.Runs trace (some (.ok found))) :
    (∃ child d, found = some child ∧ offset ≤ d ∧ d < offset + count ∧
      Succeeds node parent d child trace ∧
      ∀ e, offset ≤ e → e < d → Passed node parent e trace) ∨
    (found = none ∧ ∀ e, offset ≤ e → e < offset + count → Passed node parent e trace) := by
  induction count generalizing offset trace with
  | zero =>
    obtain ⟨-, same⟩ := Action.pure_runs run
    cases same
    refine .inr ⟨rfl, fun e lower upper => ?_⟩
    omega
  | succ count ih =>
    rcases successorFrom_step run with ⟨child, rfl, succeeds⟩ | ⟨before, after, rfl, passed, rest⟩
    · refine .inl ⟨child, offset, rfl, Nat.le_refl _, by omega, succeeds, fun e lower upper => ?_⟩
      omega
    have front : before ⊆ before ++ after := List.subset_append_left before after
    have back : after ⊆ before ++ after := List.subset_append_right before after
    -- A height that was passed is the one of this step, or one of the steps after it.
    have passes {bound : Nat} (later : ∀ e, offset + 1 ≤ e → e < bound →
        Passed node parent e after) :
        ∀ e, offset ≤ e → e < bound → Passed node parent e (before ++ after) := by
      intro e lower upper
      by_cases now : e = offset
      · subst now
        exact passed.mono front
      · exact (later e (by omega) upper).mono back
    rcases ih rest with ⟨child, d, rfl, lower, upper, succeeds, later⟩ | ⟨rfl, later⟩
    · exact .inl ⟨child, d, rfl, by omega, by omega, succeeds.mono back, passes later⟩
    · rw [Nat.succ_add_eq_add_succ] at later
      exact .inr ⟨rfl, passes later⟩

/-- A search fails only where a node refuses an answer. -/
theorem successorFrom_runs_error {fault : Fault}
    (run : (successorFrom node parent count offset).run.Runs trace (some (.error fault))) :
    Refused node trace := by
  induction count generalizing offset trace with
  | zero => cases (Action.pure_runs run).2
  | succ count ih =>
    rcases Action.runs_bind_error run with ⟨candidate, _, _, rfl, _, rest⟩ | asked
    · apply Refused.mono ?_ (List.subset_append_right _ _)
      cases candidate with
      | none => exact ih rest
      | some candidate =>
        dsimp only at rest
        split at rest
        · cases (Action.pure_runs rest).2
        · exact ih rest
    · exact Node.produced?_runs_error asked

/-- Anchors that were found are the block that the header names and its first child. -/
theorem anchors_runs_ok {link : BlockAnchors}
    (run : (anchors search node block).run.Runs trace (some (.ok link))) :
    ∃ last child d, Shown node (.hash block.epochId) last trace ∧ 1 ≤ d ∧ d ≤ search.maxDrift ∧
      Succeeds node last d child trace ∧ (∀ e, 1 ≤ e → e < d → Passed node last e trace) ∧
      link = ⟨block.hash, child.hash, last.hash⟩ := by
  obtain ⟨last, _, _, rfl, asked, run₁⟩ := Action.runs_bind_ok run
  obtain rfl := Node.require_runs asked
  obtain ⟨found, searched, _, rfl, looked, run₂⟩ := Action.runs_bind_ok run₁
  rcases successorFrom_runs looked with ⟨child, d, rfl, lower, upper, succeeds, passed⟩ | ⟨rfl, -⟩
  · obtain ⟨rfl, same⟩ := Action.pure_runs run₂
    cases same
    have inside : searched ⊆ [⟨.block node (.hash block.epochId), some (.ok (.found last))⟩] ++
        (searched ++ []) := by
      apply List.subset_append_of_subset_right
      exact List.subset_append_left searched []
    exact ⟨last, child, d, List.mem_cons_self, lower, by omega, succeeds.mono inside,
      fun e low high => (passed e low high).mono inside, rfl⟩
  · cases (Action.fail_runs run₂).2

/-- The fault of a search for the child of a block in vain. -/
def noSuccessor (search : Search) (last : Block) : Fault :=
  ⟨.blockNotProduced, "No successor of epoch block " ++ last.hash ++ " within " ++
    toString search.maxDrift ++ " blocks"⟩

/-- A search for anchors that fails was refused an answer, did not find the block that the header
names, or was shown no child of it. -/
theorem anchors_runs_error {fault : Fault}
    (run : (anchors search node block).run.Runs trace (some (.error fault))) :
    Refused node trace ∨ Unknown node (.hash block.epochId) trace ∨
    ∃ last, fault = noSuccessor search last ∧ Shown node (.hash block.epochId) last trace ∧
      ∀ e, 1 ≤ e → e ≤ search.maxDrift → Passed node last e trace := by
  rcases Action.runs_bind_error run with ⟨last, _, _, rfl, asked, run₁⟩ | asked
  · obtain rfl := Node.require_runs asked
    rcases Action.runs_bind_error run₁ with ⟨found, searched, _, rfl, looked, run₂⟩ | looked
    · rcases successorFrom_runs looked with ⟨child, d, rfl, -⟩ | ⟨rfl, passed⟩
      · cases (Action.pure_runs run₂).2
      · obtain ⟨rfl, same⟩ := Action.fail_runs run₂
        cases same
        refine .inr (.inr ⟨last, rfl, List.mem_cons_self, fun e lower upper => ?_⟩)
        apply (passed e lower (by omega)).mono
        apply List.subset_append_of_subset_right
        exact List.subset_append_left searched []
    · exact .inl ((successorFrom_runs_error looked).mono (List.subset_append_right _ _))
  · rcases Node.require_runs_error asked with unknown | refused
    · exact .inr (.inl unknown)
    · exact .inl refused

end HeaderRelay.Epoch
