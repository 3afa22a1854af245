import HeaderRelay.Number.Shortest
import HeaderRelay.Proofs.Rounding

/-
The digits that are written for a positive number lie in its interval. They are looked for on
coarser grids first; seventeen digits are always enough, since the nearest multiple on that grid
is closer to the number than half the distance to its neighbours.
-/

set_option autoImplicit false

namespace HeaderRelay.Shortest

open Binary64 (Canonical Within slack two_zpow_pos)

variable {a b x : Fraction} {m n : Nat} {e k top : Int}

theorem ten_zpow_pos (k : Int) : (0 : ℚ) < (10 : ℚ) ^ k := zpow_pos (by norm_num) k

namespace Fraction

def value (f : Fraction) : ℚ := f.num / f.den

theorem lt_iff (positive : 0 < a.den) (positive' : 0 < b.den) :
    a.lt b = true ↔ a.value < b.value := by
  have apos : (0 : ℚ) < a.den := by exact_mod_cast positive
  have bpos : (0 : ℚ) < b.den := by exact_mod_cast positive'
  rw [lt, decide_eq_true_eq, value, value, div_lt_div_iff₀ apos bpos]
  exact_mod_cast Iff.rfl

theorem le_iff (positive : 0 < a.den) (positive' : 0 < b.den) :
    a.le b = true ↔ a.value ≤ b.value := by
  have apos : (0 : ℚ) < a.den := by exact_mod_cast positive
  have bpos : (0 : ℚ) < b.den := by exact_mod_cast positive'
  rw [le, decide_eq_true_eq, value, value, div_le_div_iff₀ apos bpos]
  exact_mod_cast Iff.rfl

end Fraction

theorem binary_den_pos (n : Nat) (k : Int) : 0 < (binary n k).den := Binary64.denominator_pos k

theorem binary_value (n : Nat) (k : Int) : (binary n k).value = n * (2 : ℚ) ^ k :=
  Binary64.numerator_div n k

theorem decimal_den_pos (n : Nat) (k : Int) : 0 < (decimal n k).den := by
  rw [decimal]
  split
  · exact Nat.one_pos
  · exact Nat.pow_pos (by decide)

theorem decimal_value (n : Nat) (k : Int) : (decimal n k).value = n * (10 : ℚ) ^ k := by
  have power : ∀ {j : Int}, 0 ≤ j → ((10 ^ j.toNat : Nat) : ℚ) = (10 : ℚ) ^ j := by
    intro j nonneg
    conv_rhs => rw [← Int.toNat_of_nonneg nonneg]
    rw [zpow_natCast]
    push_cast
    rfl
  rw [decimal]
  by_cases nonneg : 0 ≤ k
  · rw [if_pos nonneg, Fraction.value, Nat.pow_eq, Nat.cast_mul, power nonneg, Nat.cast_one,
      div_one]
  · rw [if_neg nonneg, Fraction.value, Nat.pow_eq, power (by omega), zpow_neg, div_inv_eq_mul]

/-! Intervals. -/

theorem around_low_den_pos (m : Nat) (e : Int) : 0 < (Interval.around m e).low.den := by
  rw [Interval.around]
  dsimp only
  split
  · exact binary_den_pos _ _
  · exact binary_den_pos _ _

theorem around_low_value (some : 0 < m) :
    (Interval.around m e).low.value = (m - slack m e) * (2 : ℚ) ^ e := by
  rw [Interval.around, slack, Nat.pow_eq]
  dsimp only
  split
  · rw [binary_value, zpow_sub₀ (by norm_num), Nat.cast_sub (by omega)]
    push_cast
    ring
  · rw [binary_value, zpow_sub₀ (by norm_num), Nat.cast_sub (by omega)]
    push_cast
    ring

theorem around_high_value (m : Nat) (e : Int) :
    (Interval.around m e).high.value = (m + 1 / 2) * (2 : ℚ) ^ e := by
  rw [Interval.around]
  dsimp only
  rw [binary_value, zpow_sub₀ (by norm_num)]
  push_cast
  ring

theorem contains_iff (some : 0 < m) (positive : 0 < x.den) :
    (Interval.around m e).contains x = true ↔ Within x.value m e := by
  have lowPos := around_low_den_pos m e
  have highPos : 0 < (Interval.around m e).high.den := binary_den_pos _ _
  have closed : (Interval.around m e).closed = decide (m % 2 = 0) := rfl
  rw [Interval.contains, closed]
  by_cases even : m % 2 = 0
  · rw [if_pos (decide_eq_true even), Bool.and_eq_true, Fraction.le_iff lowPos positive,
      Fraction.le_iff positive highPos, around_low_value some, around_high_value]
    exact ⟨fun h => ⟨h.1, h.2, fun _ => even⟩, fun h => ⟨h.low, h.high⟩⟩
  · rw [if_neg (by simp [even]), Bool.and_eq_true, Fraction.lt_iff lowPos positive,
      Fraction.lt_iff positive highPos, around_low_value some, around_high_value]
    refine ⟨fun h => ⟨h.1.le, h.2.le, ?_⟩, fun h => ⟨?_, ?_⟩⟩
    · rintro (same | same)
      · exact absurd same h.1.ne'
      · exact absurd same h.2.ne
    · exact lt_of_le_of_ne h.low fun same => even (h.tie (.inl same.symm))
    · exact lt_of_le_of_ne h.high fun same => even (h.tie (.inr same))

/-! Multiples on a grid. -/

theorem contains_decimal_iff (some : 0 < m) (n : Nat) (k : Int) :
    (Interval.around m e).contains (decimal n k) = true ↔ Within (n * (10 : ℚ) ^ k) m e := by
  rw [contains_iff some (decimal_den_pos n k), decimal_value]

/-- What is found on a grid is not zero and lies in the interval. -/
theorem onGrid_within (some : 0 < m) (found : onGrid (Interval.around m e) x k = .some n) :
    n ≠ 0 ∧ Within (n * (10 : ℚ) ^ k) m e := by
  rw [onGrid] at found
  dsimp only at found
  generalize (x.num * (decimal 1 k).den) / (x.den * (decimal 1 k).num) = below at found
  have lower := contains_decimal_iff (e := e) some below k
  have upper := contains_decimal_iff (e := e) some (below + 1) k
  split at found
  · rename_i isLower isUpper
    rw [Bool.and_eq_true, bne_iff_ne] at isLower
    split_ifs at found <;> cases found
    · exact ⟨isLower.2, lower.mp isLower.1⟩
    · exact ⟨by omega, upper.mp isUpper⟩
    · exact ⟨isLower.2, lower.mp isLower.1⟩
    · exact ⟨by omega, upper.mp isUpper⟩
  · rename_i isLower _
    rw [Bool.and_eq_true, bne_iff_ne] at isLower
    cases found
    exact ⟨isLower.2, lower.mp isLower.1⟩
  · rename_i isUpper
    cases found
    exact ⟨by omega, upper.mp isUpper⟩
  · cases found

theorem quotient_bounds (positive : 0 < a.den) (positive' : 0 < b.den) (some : 0 < b.num) :
    ((a.num * b.den / (a.den * b.num) : Nat) : ℚ) * b.value ≤ a.value ∧
      a.value < ((a.num * b.den / (a.den * b.num) : Nat) + 1) * b.value := by
  have apos : (0 : ℚ) < a.den := by exact_mod_cast positive
  have bpos : (0 : ℚ) < b.den := by exact_mod_cast positive'
  have low := Nat.div_mul_le_self (a.num * b.den) (a.den * b.num)
  have high := Nat.lt_div_mul_add (a := a.num * b.den) (Nat.mul_pos positive some)
  generalize a.num * b.den / (a.den * b.num) = q at *
  rw [Fraction.value, Fraction.value, mul_div_assoc', mul_div_assoc', div_le_div_iff₀ bpos apos,
    div_lt_div_iff₀ apos bpos]
  refine ⟨?_, ?_⟩
  · have : q * b.num * a.den ≤ a.num * b.den := by linarith
    exact_mod_cast this
  · have : a.num * b.den < (q + 1) * b.num * a.den := by linarith
    exact_mod_cast this

theorem decimal_one_value (k : Int) : (decimal 1 k).value = (10 : ℚ) ^ k := by
  rw [decimal_value, Nat.cast_one, one_mul]

theorem decimal_one_num_pos (k : Int) : 0 < (decimal 1 k).num := by
  rw [decimal]
  split
  · exact Nat.mul_pos Nat.one_pos (Nat.pow_pos (by decide))
  · exact Nat.one_pos

/-- A fraction close to a number of at most 53 bits is rounded to it. -/
theorem within_of_close {r : ℚ} (bits : m < 2 ^ 53)
    (low : m * (2 : ℚ) ^ e - m * (2 : ℚ) ^ e / 2 ^ 54 < r)
    (high : r < m * (2 : ℚ) ^ e + m * (2 : ℚ) ^ e / 2 ^ 54) : Within r m e := by
  have scale := two_zpow_pos e
  have most : (m : ℚ) ≤ 2 ^ 53 := by exact_mod_cast bits.le
  have below : (m : ℚ) / 2 ^ 54 ≤ slack m e := by
    rw [slack]
    split_ifs with power
    · rw [power.1]
      norm_num
    · rw [div_le_iff₀ (by norm_num)]
      linarith
  have above : (m : ℚ) / 2 ^ 54 ≤ 1 / 2 := by
    rw [div_le_iff₀ (by norm_num)]
    linarith
  have low' : (m - slack m e) * (2 : ℚ) ^ e < r := by
    refine lt_of_le_of_lt ?_ low
    rw [mul_div_right_comm, ← sub_mul]
    gcongr
  have high' : r < (m + 1 / 2) * (2 : ℚ) ^ e := by
    refine lt_of_lt_of_le high ?_
    rw [mul_div_right_comm, ← add_mul]
    gcongr
  exact ⟨low'.le, high'.le, fun tie => (tie.elim low'.ne' high'.ne).elim⟩

/-- On a grid with sixteen places below the number, the multiple before or after it is close
enough: 2 ^ 54 is less than 2 * 10 ^ 16. -/
theorem onGrid_isSome (some : 0 < m) (bits : m < 2 ^ 53)
    (fine : 10 ^ 16 * (10 : ℚ) ^ k ≤ m * (2 : ℚ) ^ e) :
    (onGrid (Interval.around m e) (binary m e) k).isSome = true := by
  have step := ten_zpow_pos k
  obtain ⟨low, high⟩ := quotient_bounds (binary_den_pos m e) (decimal_den_pos 1 k)
    (decimal_one_num_pos k)
  rw [binary_value, decimal_one_value] at low high
  rw [onGrid]
  dsimp only
  generalize (binary m e).num * (decimal 1 k).den / ((binary m e).den * (decimal 1 k).num) = below
    at *
  have nonzero : (below != 0) = true := by
    rw [bne_iff_ne]
    rintro rfl
    rw [Nat.cast_zero, zero_add, one_mul] at high
    linarith
  -- the nearer of the two is at most half a step away
  have near : Within (below * (10 : ℚ) ^ k) m e ∨ Within ((below + 1 : Nat) * (10 : ℚ) ^ k) m e := by
    rw [Nat.cast_add, Nat.cast_one]
    rw [add_mul, one_mul] at high ⊢
    rcases le_total (m * (2 : ℚ) ^ e - below * (10 : ℚ) ^ k) ((10 : ℚ) ^ k / 2) with first | second
    · refine .inl (within_of_close bits ?_ ?_)
      · linarith
      · linarith
    · refine .inr (within_of_close bits ?_ ?_)
      · linarith
      · linarith
  rw [← contains_decimal_iff some, ← contains_decimal_iff some] at near
  rw [nonzero, Bool.and_true]
  split
  · split_ifs <;> rfl
  · rfl
  · rfl
  · rename_i isLower isUpper
    rw [isLower, isUpper] at near
    simp at near

/-! The digits that are taken. -/

/-- A power of ten below the number is found on the way down. -/
theorem floorLog10_le {fuel : Nat} {start : Int} (positive : 0 < x.den)
    (reached : (10 : ℚ) ^ (start - fuel + 1) ≤ x.value) (some : 0 < fuel) :
    (10 : ℚ) ^ floorLog10 x fuel start ≤ x.value := by
  induction fuel generalizing start with
  | zero => omega
  | succ fuel ih =>
    rw [floorLog10]
    split
    · rename_i found
      rw [Fraction.le_iff (decimal_den_pos _ _) positive, decimal_one_value] at found
      exact found
    · rename_i missed
      rcases Nat.eq_zero_or_pos fuel with rfl | more
      · rw [Fraction.le_iff (decimal_den_pos _ _) positive, decimal_one_value] at missed
        simp at reached missed
        linarith
      · refine ih ?_ more
        rw [show start - 1 - (fuel : Int) + 1 = start - (fuel + 1 : Nat) + 1 by omega]
        exact reached

/-- The search finds digits as soon as some grid has any. -/
theorem search_within (some : 0 < m) {fuel digits : Nat}
    (found : (onGrid (Interval.around m e) x (top - (digits + fuel : Nat) + 1)).isSome = true) :
    (search (Interval.around m e) x top fuel digits).1 ≠ 0 ∧
      Within ((search (Interval.around m e) x top fuel digits).1 *
        (10 : ℚ) ^ (search (Interval.around m e) x top fuel digits).2) m e := by
  induction fuel generalizing digits with
  | zero =>
    obtain ⟨n, same⟩ := Option.isSome_iff_exists.mp found
    rw [Nat.add_zero] at same
    rw [search, same]
    exact onGrid_within some same
  | succ fuel ih =>
    rw [search]
    split
    · rename_i n same
      exact onGrid_within some same
    · apply ih
      rw [Nat.add_right_comm]
      exact found

theorem strip_value (fuel n : Nat) (k : Int) (some : n ≠ 0) :
    (strip fuel n k).1 ≠ 0 ∧
      ((strip fuel n k).1 : ℚ) * (10 : ℚ) ^ (strip fuel n k).2 = n * (10 : ℚ) ^ k := by
  induction fuel generalizing n k with
  | zero => exact ⟨some, rfl⟩
  | succ fuel ih =>
    rw [strip]
    split
    · rename_i more
      obtain ⟨nonzero, same⟩ := ih (n / 10) (k + 1) (by omega)
      refine ⟨nonzero, ?_⟩
      rw [same, zpow_add_one₀ (by norm_num)]
      have whole : n = n / 10 * 10 := by omega
      have : (n : ℚ) = (n / 10 : Nat) * 10 := by exact_mod_cast whole
      rw [this]
      ring
    · exact ⟨some, rfl⟩

theorem two_pow_le_ten_pow {a b : Nat} (fewer : a ≤ 3 * b) : (2 : ℚ) ^ a ≤ (10 : ℚ) ^ b :=
  calc (2 : ℚ) ^ a ≤ (2 : ℚ) ^ (3 * b) := pow_le_pow_right₀ (by norm_num) fewer
    _ = (2 ^ 3) ^ b := pow_mul _ _ _
    _ ≤ (10 : ℚ) ^ b := pow_le_pow_left₀ (by norm_num) (by norm_num) _

/-- The digits of a positive number are not zero and lie in its interval. -/
theorem ofBinary_within {negative : Bool} (canonical : (Binary64.finite negative m e).Canonical)
    (some : 0 < m) :
    (ofBinary m e).1 ≠ 0 ∧ Within ((ofBinary m e).1 * (10 : ℚ) ^ (ofBinary m e).2) m e := by
  obtain ⟨bits, bottom, -, -⟩ := canonical
  have positive := binary_den_pos m e
  have unit : (1 : ℚ) ≤ m := by exact_mod_cast some
  have least : (10 : ℚ) ^ (309 - (700 : Nat) + 1 : Int) ≤ (binary m e).value := by
    have finest : (10 : ℚ) ^ (309 - (700 : Nat) + 1 : Int) ≤ (2 : ℚ) ^ Binary64.leastExponent := by
      rw [Binary64.leastExponent, show (309 - (700 : Nat) + 1 : Int) = -(390 : Nat) by rfl,
        show (-1074 : Int) = -(1074 : Nat) by rfl, zpow_neg, zpow_neg, zpow_natCast, zpow_natCast]
      exact inv_anti₀ (by positivity) (two_pow_le_ten_pow (by decide))
    rw [binary_value]
    calc (10 : ℚ) ^ (309 - (700 : Nat) + 1 : Int) ≤ (2 : ℚ) ^ Binary64.leastExponent := finest
      _ ≤ (2 : ℚ) ^ e := zpow_le_zpow_right₀ (by norm_num) bottom
      _ ≤ m * (2 : ℚ) ^ e := le_mul_of_one_le_left (two_zpow_pos e).le unit
  have low := floorLog10_le positive least (by decide)
  rw [ofBinary]
  dsimp only
  generalize floorLog10 (binary m e) 700 309 = top at *
  -- the last grid that is tried, that of seventeen digits
  have found : (onGrid (Interval.around m e) (binary m e) (top - (1 + 16 : Nat) + 1)).isSome =
      true := by
    apply onGrid_isSome some bits
    rw [← binary_value]
    refine le_trans (le_of_eq ?_) low
    rw [← zpow_natCast, ← zpow_add₀ (by norm_num)]
    congr 1
    omega
  obtain ⟨nonzero, within⟩ := search_within some found
  obtain ⟨nonzero', same⟩ := strip_value 20 _ _ nonzero
  exact ⟨nonzero', same ▸ within⟩

end HeaderRelay.Shortest
