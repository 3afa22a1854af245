import HeaderRelay.Proof.Service
import HeaderRelay.Proofs.Anchors
import HeaderRelay.Proofs.Selection

set_option autoImplicit false

namespace HeaderRelay

theorem requireHash_error {field value : String} {fault : Fault}
    (refused : requireHash field value = .error fault) :
    fault.kind = .parse ∧ Blank.isBlankText value = true := by
  unfold requireHash at refused
  split at refused
  · rename_i blank
    cases refused
    exact ⟨rfl, blank⟩
  · cases refused

/-- No task is built of a block and anchors of it only if a hash of them is blank. -/
theorem BlockTask.build_error {block : Block} {start before : String} {fault : Fault}
    (refused : BlockTask.build block ⟨block.hash, start, before⟩ = .error fault) :
    fault.kind = .parse ∧
      ∃ hash ∈ [block.hash, start, before], Blank.isBlankText hash = true := by
  obtain failed | ⟨hash, named, built⟩ := error_of_bind refused
  · have ⟨parse, blank⟩ := requireHash_error failed
    exact ⟨parse, _, by simp, blank⟩
  rw [requireHash_ok named] at built
  dsimp only at built
  rw [if_neg (by simp)] at built
  obtain failed | ⟨_, -, built⟩ := error_of_bind built
  · have ⟨parse, blank⟩ := requireHash_error failed
    exact ⟨parse, _, by simp, blank⟩
  obtain failed | ⟨_, -, ⟨⟩⟩ := error_of_bind built
  have ⟨parse, blank⟩ := requireHash_error failed
  exact ⟨parse, _, by simp, blank⟩

namespace Proof

open Epoch (Passed Succeeds noSuccessor)
open Node (Choice Refused Shown Unknown)

variable {rules : Epoch.Rules} {hash : String} {node : Endpoint} {block : Block}
  {heard : Trace relaying} {fault : Fault}

/-- An answer without a block, and the fault that it is reported as. -/
inductive Hidden : Except Fault Sighting → Fault → Prop
  | failed (fault : Fault) : Hidden (.error fault) fault
  | unknown (detail : String) : Hidden (.ok (.absent .unknown)) ⟨.unknownBlock, detail⟩
  | notSynced (detail : String) : Hidden (.ok (.absent .notSynced)) ⟨.notSynced, detail⟩

theorem hidden_of_require {id : BlockId}
    (run : (Node.require node id).run.Runs heard (some (.error fault))) :
    ∃ reply, heard = [⟨.block node id, some reply⟩] ∧ Hidden reply fault := by
  obtain ⟨failure, rfl, ⟨⟩⟩ | ⟨sighting, _, rfl, rest⟩ :=
    Action.question_bind_ended run Action.block_runs
  · exact ⟨_, rfl, .failed _⟩
  rcases sighting with shown | (_ | _)
  · cases (Action.pure_runs rest).2
  · obtain ⟨rfl, ⟨⟩⟩ := Action.fail_runs rest
    exact ⟨_, rfl, .unknown _⟩
  · obtain ⟨rfl, ⟨⟩⟩ := Action.fail_runs rest
    exact ⟨_, rfl, .notSynced _⟩

/-- A node was chosen for the block with a hash. -/
def Chosen (rules : Epoch.Rules) (hash : String) (node : Endpoint) (heard : Trace relaying) :
    Prop :=
  ∃ asking, heard = asking ++ [⟨.note (.selected node), some ()⟩] ∧
    Choice rules.retention (.hash hash) asking (some (.ok node))

theorem chosen_of_resolve
    (run : (Node.resolve rules.retention (some hash) none).run.Runs heard (some (.ok node))) :
    Chosen rules hash node heard := by
  obtain ⟨_, ⟨⟩, -⟩ | ⟨_, asking, chosen, ⟨⟩, rfl, choice, same⟩ := Node.resolve_runs run
  cases chosen with
  | error fault => cases same
  | ok chosen =>
    cases same
    exact ⟨asking, rfl, choice⟩

theorem choice_of_resolve
    (run : (Node.resolve rules.retention (some hash) none).run.Runs heard (some (.error fault))) :
    ∃ cause, fault = Node.recognize cause ∧
      Choice rules.retention (.hash hash) heard (some (.error cause)) := by
  obtain ⟨_, ⟨⟩, -⟩ | ⟨_, asking, chosen, ⟨⟩, rfl, choice, same⟩ := Node.resolve_runs run
  cases chosen with
  | ok chosen => cases same
  | error cause =>
    cases same
    rw [Node.noting, List.append_nil]
    exact ⟨cause, rfl, choice⟩

/-- Why no task is made of a block. -/
inductive Unmade (search : Epoch.Search) (node : Endpoint) (block : Block)
    (heard : Trace relaying) : Fault → Prop
  | refused {fault : Fault} (refused : Refused node heard) : Unmade search node block heard fault
  /-- The node does not know the last block two epochs back. -/
  | unknown {fault : Fault} (unknown : Unknown node (.hash block.epochId) heard) :
      Unmade search node block heard fault
  /-- The node shows no child of that block. -/
  | childless {last : Block} (shown : Shown node (.hash block.epochId) last heard)
      (passed : ∀ d, 1 ≤ d → d ≤ search.maxDrift → Passed node last d heard) :
      Unmade search node block heard (noSuccessor search last)
  /-- A hash that the task has to name is blank. -/
  | unnamed {last child : Block} {d : Nat} {fault : Fault}
      (shown : Shown node (.hash block.epochId) last heard)
      (succeeds : Succeeds node last d child heard)
      (blank : ∃ hash ∈ [block.hash, child.hash, last.hash], Blank.isBlankText hash = true)
      (parse : fault.kind = .parse) : Unmade search node block heard fault

theorem unmade_of_anchors {search : Epoch.Search}
    (run : (Epoch.anchors search node block).run.Runs heard (some (.error fault))) :
    Unmade search node block heard fault := by
  obtain refused | unknown | ⟨last, rfl, shown, passed⟩ := Epoch.anchors_runs_error run
  · exact .refused refused
  · exact .unknown unknown
  · exact .childless shown passed

theorem unmade_of_build {search : Epoch.Search} {anchors : BlockAnchors}
    (run : (Epoch.anchors search node block).run.Runs heard (some (.ok anchors)))
    (failed : BlockTask.build block anchors = .error fault) :
    Unmade search node block heard fault := by
  obtain ⟨last, child, d, shown, -, -, succeeds, -, rfl⟩ := Epoch.anchors_runs_ok run
  obtain ⟨parse, blank⟩ := BlockTask.build_error failed
  exact .unnamed shown succeeds blank parse

/-- Why a request fails before there is a record to write. -/
inductive Refusal (rules : Epoch.Rules) (asked : String) : Trace relaying → Fault → Prop
  /-- It names no block. -/
  | blank (empty : Blank.trim asked = "") :
      Refusal rules asked [] ⟨.invalidArgument, "Block hash must not be empty"⟩
  /-- No node is chosen for the block. -/
  | unchosen {heard : Trace relaying} {cause : Fault}
      (choice : Choice rules.retention (.hash (Blank.trim asked)) heard (some (.error cause))) :
      Refusal rules asked heard (Node.recognize cause)
  /-- The node that was chosen does not show the block. -/
  | hidden {node : Endpoint} {front : Trace relaying} {reply : Except Fault Sighting}
      {fault : Fault} (chosen : Chosen rules (Blank.trim asked) node front)
      (hidden : Hidden reply fault) :
      Refusal rules asked (front ++ [⟨.block node (.hash (Blank.trim asked)), some reply⟩]) fault
  /-- The contract does not say whether it holds a proof of the block. -/
  | untold {node : Endpoint} {front : Trace relaying} {block : Block} {fault : Fault}
      (chosen : Chosen rules (Blank.trim asked) node front) :
      Refusal rules asked
        (front ++ ([⟨.block node (.hash (Blank.trim asked)), some (.ok (.found block))⟩] ++
          [⟨.isProofed block.hash, some (.error fault)⟩])) fault
  /-- No task can be made of the block. -/
  | unmade {node : Endpoint} {front back : Trace relaying} {block : Block} {fault : Fault}
      (chosen : Chosen rules (Blank.trim asked) node front)
      (unmade : Unmade rules.search node block back fault) :
      Refusal rules asked
        (front ++ ([⟨.block node (.hash (Blank.trim asked)), some (.ok (.found block))⟩] ++
          ⟨.isProofed block.hash, some (.ok false)⟩ :: back)) fault

end Proof

end HeaderRelay
