import HeaderRelay.Proofs.Anchors
import HeaderRelay.Proofs.Window

/-
Anchors on a chain of which only parents and epoch ids are known. A parent hash names one block, so
that the child of the last block of an epoch can only be the first block of the next one, however
many heights are skipped between them.
-/

set_option autoImplicit false

namespace HeaderRelay

/-- A chain of blocks, each header of which names the last block two epochs back. -/
structure Descent where
  /-- The blocks of an epoch, in order. -/
  epoch : Nat → List Block
  unbroken : Unbroken epoch
  epochId_eq : ∀ i, ∀ b ∈ epoch (i + 2), ∀ last, (epoch i).getLast? = some last →
    b.epochId = last.hash
  hash_injective : ∀ i j, ∀ a ∈ epoch i, ∀ b ∈ epoch j, a.hash = b.hash → a = b
  hash_not_blank : ∀ i, ∀ b ∈ epoch i, Blank.isBlankText b.hash = false

namespace Descent

/-- A node that has the whole chain shows the block that was asked for, and knows no other. -/
def Serves (c : Descent) (id : BlockId) : Except Fault Sighting → Prop
  | .ok (.found b) => (∃ i, b ∈ c.epoch i) ∧ id.Names b
  | .ok (.absent .unknown) => ∀ i, ∀ b ∈ c.epoch i, ¬ id.Names b
  | _ => False

variable {c : Descent} {i j : Nat} {last first block child : Block}

/-- A block that is not the first of an epoch is the child of one in it. -/
theorem exists_parent {blocks : List Block} (chain : blocks.IsChain Block.Parents)
    (member : child ∈ blocks) (later : blocks.head? ≠ some child) :
    ∃ parent ∈ blocks, parent.Parents child := by
  induction chain with
  | nil => cases member
  | singleton a => exact absurd (congrArg some (List.mem_singleton.mp member).symm) later
  | @cons_cons a b rest parents chain ih =>
    obtain rfl | inRest := List.mem_cons.mp member
    · exact absurd rfl later
    · by_cases next : child = b
      · exact ⟨a, List.mem_cons_self, next ▸ parents⟩
      · have notFirst : (b :: rest).head? ≠ some child := fun same =>
          next (Option.some.inj same).symm
        obtain ⟨parent, inside, parents⟩ := ih inRest notFirst
        exact ⟨parent, List.mem_cons_of_mem a inside, parents⟩

/-- A child of a block of a later epoch has another parent hash than the child of `last`. -/
theorem prevHash_ne_of_parents {parent : Block} (named : last ∈ c.epoch i)
    (member : parent ∈ c.epoch j) (later : i < j) (parents : parent.Parents child) :
    child.prevHash ≠ last.hash := by
  intro links
  have same : parent = last :=
    c.hash_injective j i parent member last named (parents.2.symm.trans links)
  have above : last.height < parent.height := c.unbroken.height_lt_of_lt named member later
  rw [same] at above
  exact Nat.lt_irrefl _ above

/-- Of all blocks above the last one of an epoch, the first of the next epoch is its only child. -/
theorem eq_first_of_prevHash (atEnd : (c.epoch i).getLast? = some last)
    (atStart : (c.epoch (i + 1)).head? = some first) (member : child ∈ c.epoch j)
    (above : last.height < child.height) (links : child.prevHash = last.hash) : child = first := by
  have named : last ∈ c.epoch i := List.mem_of_getLast? atEnd
  have notBefore : i ≤ j := c.unbroken.epoch_le_of_height_le named member (Nat.le_of_lt above)
  have notSame : i ≠ j := by
    rintro rfl
    have below := c.unbroken.le_last atEnd member
    omega
  obtain ⟨k, rfl⟩ : ∃ k, j = k + 1 := ⟨j - 1, by omega⟩
  by_cases starts : (c.epoch (k + 1)).head? = some child
  · by_cases next : k = i
    · subst next
      exact Option.some.inj (starts.symm.trans atStart)
    · have present := c.unbroken.epoch_ne_nil member (Nat.le_succ k)
      have atEnd' := List.getLast?_eq_some_getLast present
      have parents := c.unbroken.parents_of_ends atEnd' starts
      have other := prevHash_ne_of_parents named (List.mem_of_getLast? atEnd')
        (by omega) parents
      exact absurd links other
  · have chain := (List.isChain_append.mp (c.unbroken.linked (k + 1))).1
    obtain ⟨parent, inside, parents⟩ := exists_parent chain member starts
    have other := prevHash_ne_of_parents named inside (by omega) parents
    exact absurd links other

end Descent

namespace Epoch

open Node (Shown Unknown Refused)

variable {c : Descent} {node : Endpoint} {trace : Trace relaying} {i : Nat}
  {last first block : Block} {search : Search}

/-- A task is built of a block and anchors of it that are not blank. -/
theorem build_anchors {start before : String} (hash : Blank.isBlankText block.hash = false)
    (startHash : Blank.isBlankText start = false) (beforeHash : Blank.isBlankText before = false) :
    BlockTask.build block ⟨block.hash, start, before⟩ = .ok ⟨block.hash, start, before⟩ := by
  simp only [BlockTask.build, requireHash, hash, startHash, beforeHash]
  simp [bind, Except.bind]

/-- What anchors of a block are found on a chain that a node has as a whole. -/
theorem anchors_runs_descent {ended : Except Fault BlockAnchors}
    (serves : ∀ id reply, ⟨.block node id, some reply⟩ ∈ trace → c.Serves id reply)
    (member : block ∈ c.epoch (i + 2)) (atEnd : (c.epoch i).getLast? = some last)
    (atStart : (c.epoch (i + 1)).head? = some first)
    (run : (anchors search node block).run.Runs trace (some ended)) :
    (first.height ≤ last.height + search.maxDrift ∧
      ended = .ok ⟨block.hash, first.hash, last.hash⟩) ∨
    (last.height + search.maxDrift < first.height ∧ ended = .error (noSuccessor search last)) := by
  have lastIn : last ∈ c.epoch i := List.mem_of_getLast? atEnd
  have firstIn : first ∈ c.epoch (i + 1) := List.mem_of_mem_head? atStart
  have parents : last.Parents first := c.unbroken.parents_of_ends atEnd atStart
  have epochId := c.epochId_eq i block member last atEnd
  have named {b : Block} (shown : Shown node (.hash block.epochId) b trace) : b = last := by
    obtain ⟨⟨j, inChain⟩, same⟩ := serves _ _ shown
    exact c.hash_injective j i b inChain last lastIn (Eq.trans same epochId)
  cases ended with
  | ok link =>
    obtain ⟨last', child, d, shown, lower, upper, succeeds, -, rfl⟩ := anchors_runs_ok run
    obtain rfl := named shown
    obtain ⟨⟨j, inChain⟩, atHeight⟩ := serves _ _ succeeds.shown
    have height : child.height = last'.height + d := atHeight
    obtain rfl := Descent.eq_first_of_prevHash atEnd atStart inChain (by omega) succeeds.links
    exact .inl ⟨by omega, rfl⟩
  | error fault =>
    obtain refused | unknown | ⟨last', rfl, shown, passed⟩ := anchors_runs_error run
    · obtain ⟨_, ⟨_, refused⟩ | refused⟩ := refused
      · exact (serves _ _ refused).elim
      · exact (serves _ _ refused).elim
    · exact absurd epochId.symm (serves _ _ unknown i last lastIn)
    · obtain rfl := named shown
      refine .inr ⟨?_, rfl⟩
      by_contra within
      -- The search has looked at the height of the first block, and cannot have passed it.
      have height : last'.height + (first.height - last'.height) = first.height := by
        have above := parents.1
        omega
      obtain unknown | ⟨other, shown, links⟩ := passed (first.height - last'.height)
        (Nat.sub_pos_of_lt parents.1) (by omega)
      · exact serves _ _ unknown (i + 1) first firstIn height.symm
      · obtain ⟨⟨j, inChain⟩, atHeight⟩ := serves _ _ shown
        have same : other = first :=
          c.unbroken.eq_of_height_eq inChain firstIn (Eq.trans atHeight height)
        exact links (same ▸ parents.2)

/-- The anchors of a block on a chain that a node has as a whole are the last block two epochs back
and the first block after it, if the search reaches as far as that; a task can then be built of
them. A search that does not is in vain. -/
theorem anchors_of_descent {σ : Type} {answer : (call : Call) → σ → call.Answer × σ} (c : Descent)
    (serves : ∀ id s, c.Serves id (answer (.block node id) s).1) (search : Search)
    (member : block ∈ c.epoch (i + 2)) (s : σ) :
    ∃ last first, (c.epoch i).getLast? = some last ∧ (c.epoch (i + 1)).head? = some first ∧
      let ended := ((anchors search node block).run.run answer s).1
      ((∃ link, ended = .ok link) ↔ first.height ≤ last.height + search.maxDrift) ∧
      (∀ link, ended = .ok link → link = ⟨block.hash, first.hash, last.hash⟩ ∧
        BlockTask.build block link = .ok ⟨block.hash, first.hash, last.hash⟩ ∧
        ∀ j, ∀ b ∈ c.epoch j, b.hash = link.previousEpochStart → b = first) ∧
      ((∃ fault, ended = .error fault) → ended = .error (noSuccessor search last)) := by
  have lastPresent := c.unbroken.epoch_ne_nil member (Nat.le_add_right i 2)
  have firstPresent := c.unbroken.epoch_ne_nil member (Nat.le_succ (i + 1))
  have atEnd := List.getLast?_eq_some_getLast lastPresent
  have atStart := List.head?_eq_some_head firstPresent
  refine ⟨_, _, atEnd, atStart, ?_⟩
  have lastIn := List.getLast_mem lastPresent
  have firstIn := List.head_mem firstPresent
  have task := build_anchors (c.hash_not_blank _ _ member) (c.hash_not_blank _ _ firstIn)
    (c.hash_not_blank _ _ lastIn)
  obtain ⟨trace, run, answers⟩ := Action.exists_runs answer s (anchors search node block)
  have served : ∀ id reply, ⟨.block node id, some reply⟩ ∈ trace → c.Serves id reply :=
    fun id _ => Trace.reply_of_forall answers (serves id)
  obtain ⟨reached, ended⟩ | ⟨beyond, ended⟩ :=
    anchors_runs_descent served member atEnd atStart run
  · rw [ended]
    refine ⟨⟨fun _ => reached, fun _ => ⟨_, rfl⟩⟩, ?_, ?_⟩
    · rintro link ⟨⟩
      exact ⟨rfl, task, fun j b inChain same => c.hash_injective j _ b inChain _ firstIn same⟩
    · rintro ⟨fault, ⟨⟩⟩
  · rw [ended]
    refine ⟨⟨?_, fun reached => absurd beyond (Nat.not_lt_of_le reached)⟩, ?_, fun _ => rfl⟩
    · rintro ⟨link, ⟨⟩⟩
    · rintro link ⟨⟩

end Epoch

/-- A chain without blank hashes. -/
def Lineage.descent (c : Lineage)
    (hashes : ∀ i, ∀ b ∈ c.epoch i, Blank.isBlankText b.hash = false) : Descent where
  epoch := c.epoch
  unbroken := c.unbroken
  epochId_eq i b member _ atEnd := (c.epochId_eq (i + 2) b member).trans (closing_succ atEnd)
  hash_injective := c.hash_injective
  hash_not_blank := hashes

theorem Lineage.Serves.descent {c : Lineage} {id : BlockId} {reply : Except Fault Sighting}
    (serves : c.Serves id reply)
    (hashes : ∀ i, ∀ b ∈ c.epoch i, Blank.isBlankText b.hash = false) :
    (c.descent hashes).Serves id reply := by
  rcases reply with fault | (b | (_ | _))
  · exact serves
  · exact serves
  · exact fun i b member named => serves b ⟨⟨i, member⟩, named⟩
  · exact serves

namespace Epoch

/-- The start of an epoch that a height was skipped before is reached by the second look. -/
theorem anchors_of_descent_skippedStart :
    let answer := archive skippedStart.flatten ⟨"H3", "H5"⟩
    let block : Block := ⟨"H6", 6, "H3", "H5", "H5", 0⟩
    ((anchors ⟨1, 2⟩ .primary block).run.run answer ()).1 = .ok ⟨"H6", "H5", "H3"⟩ ∧
    BlockTask.build block ⟨"H6", "H5", "H3"⟩ = .ok ⟨"H6", "H5", "H3"⟩ := by
  intro answer block
  have hashes : ∀ b ∈ skippedStart.flatten, Blank.isBlankText b.hash = false := by decide
  let c := skippedStartChain.descent fun i b member => hashes b (mem_flatten_iff.mpr ⟨i, member⟩)
  have serves : ∀ id s, c.Serves id (answer (.block .primary id) s).1 :=
    fun id s => ((skippedStart_serving 5 ⟨"H3", "H5"⟩).blocks id s).descent _
  have member : block ∈ c.epoch (1 + 2) := List.mem_singleton.mpr rfl
  obtain ⟨last, first, ⟨⟩, ⟨⟩, reached, named, -⟩ :=
    anchors_of_descent c serves ⟨1, 2⟩ member ()
  obtain ⟨link, found⟩ := reached.mpr (by decide)
  obtain ⟨rfl, task, -⟩ := named link found
  exact ⟨found, task⟩

end Epoch

end HeaderRelay
