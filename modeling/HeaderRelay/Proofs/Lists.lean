import Mathlib.Data.List.Perm.Basic

set_option autoImplicit false

namespace HeaderRelay

variable {α β : Type}

theorem lt_length_of_getD_ne_nil {lists : List (List α)} {i : Nat}
    (present : lists.getD i [] ≠ []) : i < lists.length := by
  by_contra outside
  have absent : lists[i]? = none := List.getElem?_eq_none (Nat.le_of_not_lt outside)
  exact present (by rw [List.getD_eq_getElem?_getD, absent, Option.getD_none])

theorem getD_mem {lists : List (List α)} {i : Nat} (inside : i < lists.length) :
    lists.getD i [] ∈ lists := by
  rw [List.getD_eq_getElem?_getD, List.getElem?_eq_getElem inside, Option.getD_some]
  exact List.getElem_mem inside

theorem mem_flatten_iff {lists : List (List α)} {a : α} :
    a ∈ lists.flatten ↔ ∃ i, a ∈ lists.getD i [] := by
  constructor
  · intro member
    obtain ⟨list, inLists, inList⟩ := List.mem_flatten.mp member
    obtain ⟨i, inside, rfl⟩ := List.mem_iff_getElem.mp inLists
    refine ⟨i, ?_⟩
    rwa [List.getD_eq_getElem?_getD, List.getElem?_eq_getElem inside, Option.getD_some]
  · rintro ⟨i, member⟩
    have inside := lt_length_of_getD_ne_nil (List.ne_nil_of_mem member)
    exact List.mem_flatten.mpr ⟨_, getD_mem inside, member⟩

/-- Two lists in a row are part of the whole row. -/
theorem append_getD_infix_flatten (lists : List (List α)) (i : Nat) :
    lists.getD i [] ++ lists.getD (i + 1) [] <:+: lists.flatten := by
  induction lists generalizing i with
  | nil => exact List.infix_rfl
  | cons list lists ih =>
    rcases i with _ | i
    · cases lists with
      | nil => exact ⟨[], [], by simp⟩
      | cons next lists => exact ⟨[], lists.flatten, by simp⟩
    · have later : lists.flatten <:+: (list :: lists).flatten := ⟨list, [], by simp⟩
      exact (ih i).trans later

/-- An entry of two rows lies in the first or in the second. -/
theorem split_append {first second before after : List α} {x : α}
    (same : before ++ x :: after = first ++ second) :
    (∃ rest, first = before ++ x :: rest) ∨
      ∃ middle, before = first ++ middle ∧ second = middle ++ x :: after := by
  rcases List.append_eq_append_iff.mp same with ⟨rest, inFirst, rest_eq⟩ | ⟨middle, left, right⟩
  · cases rest with
    | nil =>
      rw [List.append_nil] at inFirst
      exact .inr ⟨[], by rw [List.append_nil, inFirst], rest_eq.symm⟩
    | cons y rest =>
      obtain ⟨rfl, _⟩ := List.cons.inj rest_eq
      exact .inl ⟨rest, inFirst⟩
  · exact .inr ⟨middle, left, right⟩

/-- A row with one entry of a kind can be cut at such an entry in one way only. -/
theorem cut_unique {p : α → Bool} {x y : α} {a b c d : List α}
    (before : ∀ e ∈ a, p e = false) (after : ∀ e ∈ b, p e = false) (kind : p y = true)
    (same : a ++ x :: b = c ++ y :: d) : a = c ∧ x = y ∧ b = d := by
  induction a generalizing c with
  | nil =>
    cases c with
    | nil =>
      cases same
      exact ⟨rfl, rfl, rfl⟩
    | cons e c =>
      obtain ⟨rfl, rest⟩ := List.cons.inj same
      have member : y ∈ b := rest ▸ List.mem_append_right c List.mem_cons_self
      rw [after y member] at kind
      cases kind
  | cons e a ih =>
    cases c with
    | nil =>
      obtain ⟨rfl, _⟩ := List.cons.inj same
      rw [before e List.mem_cons_self] at kind
      cases kind
    | cons e' c =>
      obtain ⟨rfl, rest⟩ := List.cons.inj same
      obtain ⟨rfl, rfl, rfl⟩ := ih (fun e member => before e (List.mem_cons_of_mem _ member)) rest
      exact ⟨rfl, rfl, rfl⟩

/-- Where numbers rise, a later last one is not below an earlier last one. -/
theorem getLastD_le_of_rising {numbers later : List Nat} {first : Nat}
    (rises : (first :: (numbers ++ later)).Pairwise (· < ·)) :
    numbers.getLastD first ≤ later.getLastD (numbers.getLastD first) := by
  induction numbers generalizing first with
  | nil =>
    cases later with
    | nil => exact Nat.le_refl _
    | cons n later =>
      have last : (n :: later).getLastD first ∈ n :: later := by
        rw [List.getLastD_cons]
        exact List.getLastD_mem_cons
      exact Nat.le_of_lt ((List.pairwise_cons.mp rises).1 _ last)
  | cons n numbers ih =>
    rw [List.getLastD_cons]
    exact ih (List.pairwise_cons.mp rises).2

/-- Where steps commute, and one that is taken again changes nothing, the outcome depends only on
which steps are taken. -/
theorem foldl_eq_of_mem_iff {f : β → α → β} [RightCommutative f]
    (twice : ∀ b a, f (f b a) a = f b a) {first second : List α}
    (same : ∀ a, a ∈ first ↔ a ∈ second) (b : β) : first.foldl f b = second.foldl f b := by
  have again {steps : List α} {a : α} (member : a ∈ steps) :
      f (steps.foldl f b) a = steps.foldl f b := by
    obtain ⟨before, after, rfl⟩ := List.append_of_mem member
    have front : (before ++ a :: after).Perm ((before ++ after) ++ [a]) :=
      List.perm_middle.trans (List.perm_append_singleton a (before ++ after)).symm
    rw [front.foldl_eq, List.foldl_append, List.foldl_cons, List.foldl_nil, twice]
  have absorbed {steps more : List α} (sub : ∀ a ∈ more, a ∈ steps) :
      more.foldl f (steps.foldl f b) = steps.foldl f b := by
    induction more with
    | nil => rfl
    | cons a more ih =>
      obtain ⟨member, rest⟩ := List.forall_mem_cons.mp sub
      rw [List.foldl_cons, again member, ih rest]
  calc first.foldl f b
      = second.foldl f (first.foldl f b) := (absorbed fun a => (same a).mpr).symm
    _ = (first ++ second).foldl f b := List.foldl_append.symm
    _ = (second ++ first).foldl f b := List.perm_append_comm.foldl_eq b
    _ = first.foldl f (second.foldl f b) := List.foldl_append
    _ = second.foldl f b := absorbed fun a => (same a).mp

end HeaderRelay
