import HeaderRelay.Proofs.Lookup

set_option autoImplicit false

namespace HeaderRelay.Node

def behind (who : String) (id : BlockId) : Fault :=
  ⟨.notSynced, who ++ " node is not synced up to block " ++ id.describe⟩

def nowhere (id : BlockId) : Fault :=
  ⟨.unknownBlock, "Block " ++ id.describe ++ " is unknown to both primary and archival nodes"⟩

/-- The node for a block that the primary node has, once the newest height is known. -/
def Retention.server (r : Retention) (head : Nat) (block : Block) : Endpoint :=
  if block.height < r.keptFrom head then .archival else .primary

/-- All that the choice of a node for a block can do. A failure is a fault, or a question that was
never answered. -/
inductive Choice (retention : Retention) (id : BlockId) :
    Trace relaying → Option (Except Fault Endpoint) → Prop
  /-- The primary node does not answer. -/
  | unanswered (failure : Option Fault) :
      Choice retention id [⟨.block .primary id, failure.map .error⟩] (failure.map .error)
  /-- The primary node is behind. -/
  | primaryBehind :
      Choice retention id [⟨.block .primary id, some (.ok (.absent .notSynced))⟩]
        (some (.error (behind "Primary" id)))
  /-- The primary node has the block, but nobody knows how old it is. -/
  | unmeasured (block : Block) (failure : Option Fault) :
      Choice retention id [⟨.block .primary id, some (.ok (.found block))⟩,
        ⟨.head .archival, failure.map .error⟩] (failure.map .error)
  /-- The primary node has the block, and its age decides. -/
  | measured (block : Block) (head : Nat) :
      Choice retention id [⟨.block .primary id, some (.ok (.found block))⟩,
        ⟨.head .archival, some (.ok head)⟩] (some (.ok (retention.server head block)))
  /-- The primary node does not know the block, and the archival node does not answer. -/
  | unhelped (failure : Option Fault) :
      Choice retention id [⟨.block .primary id, some (.ok (.absent .unknown))⟩,
        ⟨.block .archival id, failure.map .error⟩] (failure.map .error)
  /-- Only the archival node has the block. -/
  | archived (block : Block) :
      Choice retention id [⟨.block .primary id, some (.ok (.absent .unknown))⟩,
        ⟨.block .archival id, some (.ok (.found block))⟩] (some (.ok .archival))
  /-- The archival node is behind. -/
  | archivalBehind :
      Choice retention id [⟨.block .primary id, some (.ok (.absent .unknown))⟩,
        ⟨.block .archival id, some (.ok (.absent .notSynced))⟩]
        (some (.error (behind "Archival" id)))
  /-- Neither node knows the block. -/
  | missing :
      Choice retention id [⟨.block .primary id, some (.ok (.absent .unknown))⟩,
        ⟨.block .archival id, some (.ok (.absent .unknown))⟩] (some (.error (nowhere id)))

variable {retention : Retention} {id : BlockId} {hash : Option String} {height : Option Nat}
  {trace : Trace relaying}

theorem choose_runs {outcome : Option (Except Fault Endpoint)}
    (run : (choose retention id).run.Runs trace outcome) : Choice retention id trace outcome := by
  rcases Action.question_bind_runs run Action.block_runs with
    ⟨failure, rfl, rfl⟩ | ⟨sighting, _, rfl, run₁⟩
  · exact .unanswered failure
  rcases sighting with block | (_ | _)
  · rcases Action.question_bind_runs run₁ Program.runs_query with
      ⟨failure, rfl, rfl⟩ | ⟨head, _, rfl, run₂⟩
    · exact .unmeasured block failure
    · obtain ⟨rfl, rfl⟩ := Action.pure_runs run₂
      exact .measured block head
  · rcases Action.question_bind_runs run₁ Action.block_runs with
      ⟨failure, rfl, rfl⟩ | ⟨sighting, _, rfl, run₂⟩
    · exact .unhelped failure
    rcases sighting with block | (_ | _)
    · obtain ⟨rfl, rfl⟩ := Action.pure_runs run₂
      exact .archived block
    · obtain ⟨rfl, rfl⟩ := Action.fail_runs run₂
      exact .missing
    · obtain ⟨rfl, rfl⟩ := Action.fail_runs run₂
      exact .archivalBehind
  · obtain ⟨rfl, rfl⟩ := Action.fail_runs run₁
    exact .primaryBehind

/-- The note of a selection, where a node was selected. -/
def noting : Except Fault Endpoint → Trace relaying
  | .ok node => [⟨.note (.selected node), some ()⟩]
  | .error _ => []

/-- A selection that comes to an end has nothing to choose for, or ends as its choice does, up to
the names of faults, and notes the node that it selects. -/
theorem resolve_runs {ended : Except Fault Endpoint}
    (run : (resolve retention hash height).run.Runs trace (some ended)) :
    (∃ fault, target hash height = .error fault ∧ trace = [] ∧ ended = .error fault) ∨
    ∃ id asked chosen, target hash height = .ok id ∧ trace = asked ++ noting chosen ∧
      Choice retention id asked (some chosen) ∧ ended = chosen.mapError recognize := by
  rcases Action.lift_bind_runs run with ⟨fault, untold, rfl, same⟩ | ⟨id, told, run₁⟩
  · cases same
    exact .inl ⟨fault, untold, rfl, rfl⟩
  refine .inr ⟨id, ?_⟩
  obtain ⟨chosen, asked, _, rfl, choosing, run₂⟩ := Action.runs_outcome_bind run₁
  refine ⟨asked, chosen, told, ?_⟩
  cases chosen with
  | ok node =>
    obtain ⟨_, rfl, run₃⟩ := Action.note_bind_ended run₂
    obtain ⟨rfl, same⟩ := Action.pure_runs run₃
    exact ⟨rfl, choose_runs choosing, Option.some.inj same⟩
  | error fault =>
    obtain ⟨rfl, same⟩ := Action.fail_runs run₂
    exact ⟨rfl, choose_runs choosing, Option.some.inj same⟩

end HeaderRelay.Node
