import HeaderRelay.Epoch.Boundary
import HeaderRelay.Proofs.Lists
import HeaderRelay.Proofs.Trace
import Mathlib.Data.List.Chain
import Mathlib.Data.List.Nodup

set_option autoImplicit false

namespace HeaderRelay

/-- One block is the parent of another. -/
def Block.Parents (parent child : Block) : Prop :=
  parent.height < child.height ∧ child.prevHash = parent.hash

def BlockId.Names : BlockId → Block → Prop
  | .height n, b => b.height = n
  | .hash s, b => b.hash = s

instance (id : BlockId) (b : Block) : Decidable (id.Names b) :=
  match id with
  | .height n => inferInstanceAs (Decidable (b.height = n))
  | .hash s => inferInstanceAs (Decidable (b.hash = s))

/-- The hash of the last block before an epoch, or a fixed text where there is none. -/
def closingHash (genesis : String) (epoch : Nat → List Block) : Nat → String
  | 0 => genesis
  | i + 1 => ((epoch i).getLast?.map Block.hash).getD genesis

instance (parent child : Block) : Decidable (parent.Parents child) :=
  inferInstanceAs (Decidable (_ ∧ _))

/-- Epochs of a chain, each block the child of the one before. A chain that has come to its newest
block has no blocks in all later epochs. -/
structure Unbroken (epoch : Nat → List Block) : Prop where
  gapless : ∀ i, epoch i = [] → epoch (i + 1) = []
  linked : ∀ i, (epoch i ++ epoch (i + 1)).IsChain Block.Parents

namespace Unbroken

variable {epoch : Nat → List Block} (chain : Unbroken epoch) {i j : Nat} {a b : Block}

include chain

theorem rising (i : Nat) : (epoch i ++ epoch (i + 1)).Pairwise (fun a b => a.height < b.height) := by
  have rises : (epoch i ++ epoch (i + 1)).IsChain (fun a b => a.height < b.height) :=
    (chain.linked i).imp fun _ _ parents => parents.1
  have trans : IsTrans Block (fun a b => a.height < b.height) := ⟨fun _ _ _ => Nat.lt_trans⟩
  exact List.isChain_iff_pairwise.mp rises

/-- No epoch before one with blocks is empty. -/
theorem epoch_ne_nil (member : b ∈ epoch j) (le : i ≤ j) : epoch i ≠ [] := by
  induction j, le using Nat.le_induction generalizing b with
  | base => exact List.ne_nil_of_mem member
  | succ j le ih =>
    by_cases empty : epoch j = []
    · rw [chain.gapless j empty] at member
      cases member
    · obtain ⟨a, before⟩ := List.exists_mem_of_ne_nil _ empty
      exact ih before

theorem height_lt_of_lt (ha : a ∈ epoch i) (hb : b ∈ epoch j) (lt : i < j) :
    a.height < b.height := by
  induction j, lt using Nat.le_induction generalizing b with
  | base => exact (List.pairwise_append.mp (chain.rising i)).2.2 a ha b hb
  | succ j le ih =>
    obtain ⟨x, between⟩ := List.exists_mem_of_ne_nil _ (chain.epoch_ne_nil hb (Nat.le_succ j))
    have below : a.height < x.height := ih between
    have above : x.height < b.height :=
      (List.pairwise_append.mp (chain.rising j)).2.2 x between b hb
    omega

theorem epoch_le_of_height_le (ha : a ∈ epoch i) (hb : b ∈ epoch j)
    (le : a.height ≤ b.height) : i ≤ j := by
  by_contra later
  have := chain.height_lt_of_lt hb ha (by omega)
  omega

theorem eq_of_height_eq (ha : a ∈ epoch i) (hb : b ∈ epoch j) (same : a.height = b.height) :
    a = b := by
  obtain rfl : i = j := Nat.le_antisymm (chain.epoch_le_of_height_le ha hb (by omega))
    (chain.epoch_le_of_height_le hb ha (by omega))
  have heights : ((epoch i).map Block.height).Nodup :=
    List.pairwise_map.mpr ((List.pairwise_append.mp (chain.rising i)).1.imp Nat.ne_of_lt)
  exact List.inj_on_of_nodup_map heights ha hb same

/-- The last block of an epoch is the parent of the first block of the next. -/
theorem parents_of_ends (atEnd : (epoch i).getLast? = some a)
    (atStart : (epoch (i + 1)).head? = some b) : a.Parents b :=
  (List.isChain_append.mp (chain.linked i)).2.2 a atEnd b atStart

theorem le_last (atEnd : (epoch i).getLast? = some a) (member : b ∈ epoch i) :
    b.height ≤ a.height := by
  have rising := (List.pairwise_append.mp (chain.rising i)).1
  obtain ⟨before, split⟩ := List.getLast?_eq_some_iff.mp atEnd
  rw [split] at rising member
  obtain earlier | same := List.mem_append.mp member
  · have below := (List.pairwise_append.mp rising).2.2 b earlier a List.mem_cons_self
    exact Nat.le_of_lt below
  · exact Nat.le_of_eq (congrArg Block.height (List.mem_singleton.mp same))

end Unbroken

/-- A chain of blocks, epoch by epoch. One that has come to its newest block has no blocks in all
later epochs. -/
structure Lineage where
  /-- Stands for the last block of an epoch before the first. -/
  genesis : String
  /-- The blocks of an epoch, in order. -/
  epoch : Nat → List Block
  gapless : ∀ i, epoch i = [] → epoch (i + 1) = []
  linked : ∀ i, (epoch i ++ epoch (i + 1)).IsChain Block.Parents
  epochId_eq : ∀ i, ∀ b ∈ epoch i, b.epochId = closingHash genesis epoch (i - 1)
  nextEpochId_eq : ∀ i, ∀ b ∈ epoch i, b.nextEpochId = closingHash genesis epoch i
  hash_injective : ∀ i j, ∀ a ∈ epoch i, ∀ b ∈ epoch j, a.hash = b.hash → a = b
  hash_ne_genesis : ∀ i, ∀ b ∈ epoch i, b.hash ≠ genesis

namespace Lineage

variable (c : Lineage)

def first? (i : Nat) : Option Block := (c.epoch i).head?

def last? (i : Nat) : Option Block := (c.epoch i).getLast?

/-- The hash of the last block before an epoch. -/
def closing (i : Nat) : String := closingHash c.genesis c.epoch i

def Shows (id : BlockId) (b : Block) : Prop := (∃ i, b ∈ c.epoch i) ∧ id.Names b

/-- A node that shows a block shows the one of the chain that was asked for. -/
def Truthful : Event relaying → Prop
  | ⟨.block _ id, some (.ok (.found b))⟩ => c.Shows id b
  | _ => True

/-- A node that has the whole chain shows the block that was asked for, and knows no other. -/
def Serves (id : BlockId) : Except Fault Sighting → Prop
  | .ok (.found b) => c.Shows id b
  | .ok (.absent .unknown) => ∀ b, ¬ c.Shows id b
  | _ => False

variable {c}

theorem mem_of_first? {i : Nat} {b : Block} (h : c.first? i = some b) : b ∈ c.epoch i :=
  List.mem_of_mem_head? h

theorem mem_of_last? {i : Nat} {b : Block} (h : c.last? i = some b) : b ∈ c.epoch i :=
  List.mem_of_mem_getLast? h

theorem closing_succ {i : Nat} {b : Block} (h : c.last? i = some b) :
    c.closing (i + 1) = b.hash := by
  have last : (c.epoch i).getLast? = some b := h
  simp only [closing, closingHash, last, Option.map_some, Option.getD_some]

theorem unbroken (c : Lineage) : Unbroken c.epoch := ⟨c.gapless, c.linked⟩

/-- No epoch before one with blocks is empty. -/
theorem epoch_ne_nil {i j : Nat} {b : Block} (member : b ∈ c.epoch j) (le : i ≤ j) :
    c.epoch i ≠ [] :=
  c.unbroken.epoch_ne_nil member le

theorem height_lt_of_lt {i j : Nat} {a b : Block} (ha : a ∈ c.epoch i) (hb : b ∈ c.epoch j)
    (lt : i < j) : a.height < b.height :=
  c.unbroken.height_lt_of_lt ha hb lt

theorem epoch_unique {i j : Nat} {b : Block} (hi : b ∈ c.epoch i) (hj : b ∈ c.epoch j) :
    i = j :=
  Nat.le_antisymm (c.unbroken.epoch_le_of_height_le hi hj (Nat.le_refl _))
    (c.unbroken.epoch_le_of_height_le hj hi (Nat.le_refl _))

theorem eq_of_height_eq {i j : Nat} {a b : Block} (ha : a ∈ c.epoch i) (hb : b ∈ c.epoch j)
    (same : a.height = b.height) : a = b :=
  c.unbroken.eq_of_height_eq ha hb same

/-- The last block of an epoch is the parent of the first block of the next. -/
theorem parents_of_ends {i : Nat} {last first : Block} (hl : c.last? i = some last)
    (hf : c.first? (i + 1) = some first) : last.Parents first :=
  c.unbroken.parents_of_ends hl hf

theorem first_le {i : Nat} {first b : Block} (hf : c.first? i = some first)
    (hb : b ∈ c.epoch i) : first.height ≤ b.height := by
  have rising := (List.pairwise_append.mp (c.unbroken.rising i)).1
  obtain ⟨rest, split⟩ := List.head?_eq_some_iff.mp hf
  rw [split] at rising hb
  rcases List.mem_cons.mp hb with rfl | later
  · exact Nat.le_refl _
  · exact Nat.le_of_lt ((List.pairwise_cons.mp rising).1 b later)

theorem exists_first {i : Nat} {b : Block} (hb : b ∈ c.epoch i) :
    ∃ first, c.first? i = some first := by
  cases blocks : c.epoch i with
  | nil => rw [blocks] at hb; cases hb
  | cons first rest => exact ⟨first, by simp only [first?, blocks, List.head?_cons]⟩

theorem exists_last {i : Nat} (present : c.epoch i ≠ []) : ∃ last, c.last? i = some last :=
  ⟨(c.epoch i).getLast present, List.getLast?_eq_some_getLast present⟩

/-- The epochs before a block of the chain end in different blocks. -/
theorem closing_injective {i j m n : Nat} {a b : Block} (ha : a ∈ c.epoch m)
    (hb : b ∈ c.epoch n) (hi : i ≤ m) (hj : j ≤ n) (same : c.closing i = c.closing j) :
    i = j := by
  have named : ∀ {i m : Nat} {a : Block}, a ∈ c.epoch m → i + 1 ≤ m →
      ∃ last, c.last? i = some last ∧ c.closing (i + 1) = last.hash := by
    intro i m a ha le
    obtain ⟨last, hl⟩ := exists_last (epoch_ne_nil ha (Nat.le_of_succ_le le))
    exact ⟨last, hl, closing_succ hl⟩
  rcases i with _ | i <;> rcases j with _ | j
  · rfl
  · obtain ⟨last, hl, named⟩ := named hb hj
    exact absurd (same.trans named).symm (c.hash_ne_genesis j last (mem_of_last? hl))
  · obtain ⟨last, hl, named⟩ := named ha hi
    exact absurd (named.symm.trans same) (c.hash_ne_genesis i last (mem_of_last? hl))
  · obtain ⟨x, hx, ofI⟩ := named ha hi
    obtain ⟨y, hy, ofJ⟩ := named hb hj
    have equal : x = y := c.hash_injective i j x (mem_of_last? hx) y (mem_of_last? hy)
      (ofI.symm.trans (same.trans ofJ))
    subst equal
    rw [epoch_unique (mem_of_last? hx) (mem_of_last? hy)]

/-- A header that names a block as the last one of the epoch before belongs to the next epoch. -/
theorem last?_of_nextEpochId {i j : Nat} {last first : Block} (hl : last ∈ c.epoch i)
    (hf : first ∈ c.epoch j) (named : last.hash = first.nextEpochId) :
    j = i + 1 ∧ c.last? i = some last := by
  rw [c.nextEpochId_eq j first hf] at named
  rcases j with _ | j
  · exact absurd named (c.hash_ne_genesis i last hl)
  · obtain ⟨final, final?⟩ := exists_last (epoch_ne_nil hf (Nat.le_succ j))
    have closing : last.hash = final.hash := named.trans (closing_succ final?)
    obtain rfl := c.hash_injective i j last hl final (mem_of_last? final?) closing
    obtain rfl := epoch_unique hl (mem_of_last? final?)
    exact ⟨rfl, final?⟩

/-- The test of the boundary search on two neighbouring heights: it holds where one epoch ends
and the next begins, of an epoch that has the epoch id of the epoch of `start`. -/
theorem isBoundary_iff {i j k : Nat} {start last first : Block} (hs : start ∈ c.epoch k)
    (hl : last ∈ c.epoch i) (hf : first ∈ c.epoch j)
    (neighbours : first.height = last.height + 1) :
    Epoch.isBoundary start last first = true ↔
      i - 1 = k - 1 ∧ c.last? i = some last ∧ c.first? (i + 1) = some first := by
  simp only [Epoch.isBoundary, Bool.and_eq_true, beq_iff_eq]
  constructor
  · rintro ⟨⟨sameEpoch, named⟩, -⟩
    obtain ⟨rfl, last?⟩ := last?_of_nextEpochId hl hf named
    obtain ⟨head, head?⟩ := exists_first hf
    have above := (parents_of_ends last? head?).1
    have below := first_le head? hf
    have same : head = first := eq_of_height_eq (mem_of_first? head?) hf (by omega)
    rw [c.epochId_eq k start hs, c.epochId_eq i last hl] at sameEpoch
    exact ⟨(closing_injective hs hl (Nat.sub_le k 1) (Nat.sub_le i 1) sameEpoch).symm, last?,
      same ▸ head?⟩
  · rintro ⟨sameEpoch, last?, first?⟩
    have nextEpoch := c.nextEpochId_eq (i + 1) first (mem_of_first? first?)
    refine ⟨⟨?_, ?_⟩, (parents_of_ends last? first?).2.symm⟩
    · rw [c.epochId_eq k start hs, c.epochId_eq i last hl, sameEpoch]
    · exact (nextEpoch.trans (closing_succ last?)).symm

/-- The only block with a hash is the one that has it. -/
theorem eq_of_shows_hash {i : Nat} {a b : Block} (member : a ∈ c.epoch i)
    (shown : c.Shows (.hash a.hash) b) : b = a := by
  obtain ⟨⟨j, inEpoch⟩, same⟩ := shown
  exact c.hash_injective j i b inEpoch a member same

/-- The only block at a height is the one that is there. -/
theorem eq_of_shows_height {i : Nat} {a b : Block} (member : a ∈ c.epoch i)
    (shown : c.Shows (.height a.height) b) : b = a := by
  obtain ⟨⟨j, inEpoch⟩, same⟩ := shown
  exact eq_of_height_eq inEpoch member same

/-- A chain that has come to its end so far, from the list of its epochs. -/
def ofEpochs (genesis : String) (epochs : List (List Block)) (full : [] ∉ epochs)
    (linked : epochs.flatten.IsChain Block.Parents)
    (ids : ∀ i < epochs.length, ∀ b ∈ epochs.getD i [],
      b.epochId = closingHash genesis (epochs.getD · []) (i - 1) ∧
        b.nextEpochId = closingHash genesis (epochs.getD · []) i)
    (distinct : (epochs.flatten.map Block.hash).Nodup)
    (apart : genesis ∉ epochs.flatten.map Block.hash) : Lineage where
  genesis := genesis
  epoch := (epochs.getD · [])
  gapless := by
    intro i empty
    by_contra present
    have inside : i + 1 < epochs.length := lt_length_of_getD_ne_nil present
    apply full
    exact empty ▸ getD_mem (Nat.lt_of_succ_lt inside)
  linked := by
    intro i
    exact linked.infix (append_getD_infix_flatten epochs i)
  epochId_eq i b member := (ids i (lt_length_of_getD_ne_nil (List.ne_nil_of_mem member)) b member).1
  nextEpochId_eq i b member :=
    (ids i (lt_length_of_getD_ne_nil (List.ne_nil_of_mem member)) b member).2
  hash_injective i j a ha b hb :=
    List.inj_on_of_nodup_map distinct (mem_flatten_iff.mpr ⟨i, ha⟩) (mem_flatten_iff.mpr ⟨j, hb⟩)
  hash_ne_genesis i b member same :=
    apart (same ▸ List.mem_map_of_mem (mem_flatten_iff.mpr ⟨i, member⟩))

end Lineage

end HeaderRelay
