import HeaderRelay.Json.Numeral
import HeaderRelay.Number.Nearest
import Mathlib.Data.Int.Log
import Mathlib.Tactic.FieldSimp
import Mathlib.Tactic.GCongr
import Mathlib.Tactic.Linarith
import Mathlib.Tactic.Positivity
import Mathlib.Tactic.Ring

set_option autoImplicit false

namespace HeaderRelay.Binary64

variable {num den m : Nat} {e k : Int} {negative : Bool}

theorem two_zpow_pos (k : Int) : (0 : ℚ) < (2 : ℚ) ^ k := zpow_pos (by norm_num) k

theorem two_zpow_succ (k : Int) : (2 : ℚ) ^ (k + 1) = 2 * (2 : ℚ) ^ k := by
  rw [zpow_add_one₀ (by norm_num), mul_comm]

theorem two_zpow_toNat (h : 0 ≤ k) : ((2 ^ k.toNat : Nat) : ℚ) = (2 : ℚ) ^ k := by
  conv_rhs => rw [← Int.toNat_of_nonneg h]
  rw [zpow_natCast]
  push_cast
  rfl

theorem denominator_pos (e : Int) : 0 < denominator e := by
  rw [denominator]
  split
  · exact Nat.one_pos
  · exact Nat.two_pow_pos _

theorem numerator_pos (some : 0 < m) : 0 < numerator m e := by
  rw [numerator]
  split
  · exact Nat.mul_pos some (Nat.two_pow_pos _)
  · exact some

theorem numerator_div (m : Nat) (e : Int) :
    (numerator m e : ℚ) / denominator e = m * (2 : ℚ) ^ e := by
  rw [numerator, denominator]
  by_cases nonneg : 0 ≤ e
  · rw [if_pos nonneg, if_pos nonneg, Nat.pow_eq, Nat.cast_mul, two_zpow_toNat nonneg,
      Nat.cast_one, div_one]
  · have down : 0 ≤ -e := by omega
    rw [if_neg nonneg, if_neg nonneg, Nat.pow_eq, two_zpow_toNat down, zpow_neg, div_inv_eq_mul]

/-! The binary logarithm. -/

theorem atLeastPower_iff (positive : 0 < den) (k : Int) :
    atLeastPower num den k = true ↔ (2 : ℚ) ^ k ≤ num / den := by
  have positive' : (0 : ℚ) < den := by exact_mod_cast positive
  rw [le_div_iff₀ positive', atLeastPower]
  by_cases nonneg : 0 ≤ k
  · rw [if_pos nonneg, decide_eq_true_eq, Nat.pow_eq, ← two_zpow_toNat nonneg, mul_comm]
    exact_mod_cast Iff.rfl
  · have down : 0 ≤ -k := by omega
    have pos := two_zpow_pos (-k)
    rw [if_neg nonneg, decide_eq_true_eq, Nat.pow_eq, ← mul_le_mul_iff_of_pos_right pos,
      mul_right_comm, ← zpow_add₀ (by norm_num), Int.add_right_neg, zpow_zero, one_mul,
      ← two_zpow_toNat down]
    exact_mod_cast Iff.rfl

theorem log2_bounds {n : Nat} (positive : 0 < n) :
    (2 : ℚ) ^ (n.log2 : Int) ≤ n ∧ (n : ℚ) < 2 * (2 : ℚ) ^ (n.log2 : Int) := by
  have low := Nat.log2_self_le (Nat.pos_iff_ne_zero.mp positive)
  have high := Nat.lt_log2_self (n := n)
  rw [pow_succ, mul_comm] at high
  rw [zpow_natCast]
  exact ⟨by exact_mod_cast low, by exact_mod_cast high⟩

theorem floorLog_bounds (positive : 0 < num) (positive' : 0 < den) :
    (2 : ℚ) ^ floorLog num den ≤ num / den ∧
      (num : ℚ) / den < 2 * (2 : ℚ) ^ floorLog num den := by
  have dpos : (0 : ℚ) < den := by exact_mod_cast positive'
  obtain ⟨nlow, nhigh⟩ := log2_bounds positive
  obtain ⟨dlow, dhigh⟩ := log2_bounds positive'
  have split : (2 : ℚ) ^ ((num.log2 : Int) - den.log2) * (2 : ℚ) ^ (den.log2 : Int) =
      (2 : ℚ) ^ (num.log2 : Int) := by
    rw [← zpow_add₀ (by norm_num), sub_add_cancel]
  have pos := two_zpow_pos ((num.log2 : Int) - den.log2)
  have reached : atLeastPower num den ((num.log2 : Int) - den.log2) = true ↔ _ :=
    atLeastPower_iff positive' _
  rw [floorLog]
  by_cases atLeast : atLeastPower num den ((num.log2 : Int) - den.log2) = true
  · simp only [atLeast, if_true]
    refine ⟨reached.mp atLeast, ?_⟩
    rw [div_lt_iff₀ dpos]
    calc (num : ℚ) < 2 * (2 : ℚ) ^ (num.log2 : Int) := nhigh
      _ = 2 * (2 : ℚ) ^ ((num.log2 : Int) - den.log2) * (2 : ℚ) ^ (den.log2 : Int) := by
        rw [mul_assoc, split]
      _ ≤ 2 * (2 : ℚ) ^ ((num.log2 : Int) - den.log2) * den := by gcongr
  · have below := lt_of_not_ge (mt reached.mpr atLeast)
    have succ := two_zpow_succ ((num.log2 : Int) - den.log2 - 1)
    rw [sub_add_cancel] at succ
    simp only [atLeast]
    refine ⟨?_, by simpa [← succ] using below⟩
    rw [le_div_iff₀ dpos]
    have half := two_zpow_pos ((num.log2 : Int) - den.log2 - 1)
    calc (2 : ℚ) ^ ((num.log2 : Int) - den.log2 - 1) * den
      _ ≤ (2 : ℚ) ^ ((num.log2 : Int) - den.log2 - 1) * (2 * (2 : ℚ) ^ (den.log2 : Int)) := by
        gcongr
      _ = (2 : ℚ) ^ (num.log2 : Int) := by rw [← split, succ]; ring
      _ ≤ num := nlow

/-- The power of two below a fraction is determined by it. -/
theorem floorLog_eq (positive : 0 < num) (positive' : 0 < den) (low : (2 : ℚ) ^ k ≤ num / den)
    (high : (num : ℚ) / den < 2 * (2 : ℚ) ^ k) : floorLog num den = k := by
  obtain ⟨low', high'⟩ := floorLog_bounds positive positive'
  rw [← two_zpow_succ] at high high'
  have above := (zpow_lt_zpow_iff_right₀ (by norm_num : (1 : ℚ) < 2)).mp (low.trans_lt high')
  have below := (zpow_lt_zpow_iff_right₀ (by norm_num : (1 : ℚ) < 2)).mp (low'.trans_lt high)
  omega

/-! The nearest whole number. -/

theorem le_nearest (low : (m : ℚ) ≤ num / den) (positive : 0 < den) : m ≤ nearest num den := by
  have dpos : (0 : ℚ) < den := by exact_mod_cast positive
  rw [le_div_iff₀ dpos] at low
  have floor : m ≤ num / den := (Nat.le_div_iff_mul_le positive).mpr (by exact_mod_cast low)
  rw [nearest]
  split_ifs <;> omega

theorem nearest_le (high : (num : ℚ) / den < m) (positive : 0 < den) : nearest num den ≤ m := by
  have dpos : (0 : ℚ) < den := by exact_mod_cast positive
  rw [div_lt_iff₀ dpos] at high
  have floor : num / den < m := (Nat.div_lt_iff_lt_mul positive).mpr (by exact_mod_cast high)
  rw [nearest]
  split_ifs <;> omega

/-- Whether a fraction lies within a half of a whole number; at the half, if that is even. -/
def RoundsTo (r : ℚ) (m : Nat) : Prop :=
  (m : ℚ) - 1 / 2 ≤ r ∧ r ≤ m + 1 / 2 ∧ (r = m - 1 / 2 ∨ r = m + 1 / 2 → m % 2 = 0)

/-- The quotient is the number itself or the one before it. -/
theorem nearest_eq (positive : 0 < den) (rounds : RoundsTo (num / den) m) :
    nearest num den = m := by
  obtain ⟨low, high, tie⟩ := rounds
  have dpos : (0 : ℚ) < den := by exact_mod_cast positive
  have twice : (num : ℚ) / den = 2 * num / (2 * den) := by field_simp
  have low' : 2 * m * den ≤ 2 * num + den := by
    rw [le_div_iff₀ dpos] at low
    have : (2 * m * den : ℚ) ≤ 2 * num + den := by linarith
    exact_mod_cast this
  have high' : 2 * num ≤ 2 * m * den + den := by
    rw [div_le_iff₀ dpos] at high
    have : (2 * num : ℚ) ≤ 2 * m * den + den := by linarith
    exact_mod_cast this
  have tieLow : 2 * m * den = 2 * num + den → m % 2 = 0 := by
    intro same
    have : (2 * m * den : ℚ) = 2 * num + den := by exact_mod_cast same
    exact tie (.inl (by rw [div_eq_iff dpos.ne']; linarith))
  have tieHigh : 2 * num = 2 * m * den + den → m % 2 = 0 := by
    intro same
    have : (2 * num : ℚ) = 2 * m * den + den := by exact_mod_cast same
    exact tie (.inr (by rw [div_eq_iff dpos.ne']; linarith))
  have rest := Nat.mod_lt num positive
  have whole := Nat.div_add_mod num den
  rw [nearest]
  generalize num / den = q at *
  generalize num % den = r at *
  subst whole
  -- a number further off would be more than half a step away
  have least : m ≤ q + 1 := by
    by_contra far
    have : den * (q + 2) ≤ den * m := Nat.mul_le_mul_left den (by omega)
    rw [mul_add] at this
    have : 2 * m * den = 2 * (den * m) := by ring
    omega
  have most : q ≤ m := by
    by_contra far
    have : den * (m + 1) ≤ den * q := Nat.mul_le_mul_left den (by omega)
    rw [mul_add] at this
    have : 2 * m * den = 2 * (den * m) := by ring
    omega
  rcases Nat.eq_or_lt_of_le most with rfl | before
  · have : 2 * q * den = 2 * (den * q) := by ring
    rw [if_neg (by omega), if_neg (by omega)]
  · obtain rfl : m = q + 1 := by omega
    have : 2 * (q + 1) * den = 2 * (den * q) + 2 * den := by ring
    split_ifs <;> omega

/-! Rounding on a grid. -/

/-- A multiple on a grid is a whole number nearest to a fraction. -/
theorem nearestMultiple_eq (positive : 0 < den) (num : Nat) (e : Int) :
    ∃ n d : Nat, 0 < d ∧ nearestMultiple num den e = nearest n d ∧
      (n : ℚ) / d = num / den / (2 : ℚ) ^ e := by
  rw [nearestMultiple]
  by_cases nonneg : 0 ≤ e
  · rw [if_pos nonneg]
    refine ⟨num, den * 2 ^ e.toNat, Nat.mul_pos positive (Nat.two_pow_pos _), rfl, ?_⟩
    rw [Nat.cast_mul, two_zpow_toNat nonneg, div_div]
  · rw [if_neg nonneg]
    refine ⟨num * 2 ^ (-e).toNat, den, positive, rfl, ?_⟩
    rw [Nat.cast_mul, two_zpow_toNat (by omega), zpow_neg, ← div_eq_mul_inv, div_right_comm]

theorem round_of_multiple {q : Nat} (some : num ≠ 0) (grid : gridExponent num den = e)
    (multiple : nearestMultiple num den e = q) :
    round negative num den =
      if q = 2 ^ 53 then
        if greatestExponent < e + 1 then .infinite negative else .finite negative (2 ^ 52) (e + 1)
      else if greatestExponent < e then .infinite negative else .finite negative q e := by
  subst grid multiple
  rw [round, if_neg some]
  dsimp only
  rw [Nat.pow_eq, Nat.pow_eq]
  split <;> rfl

/-- A number as operations give it. -/
def Canonical : Binary64 → Prop
  | .finite _ m e =>
      m < 2 ^ 53 ∧ leastExponent ≤ e ∧ e ≤ greatestExponent ∧ (2 ^ 52 ≤ m ∨ e = leastExponent)
  | _ => True

theorem canonical_zero (negative : Bool) : (zero negative).Canonical :=
  ⟨by decide, by decide, by decide, .inr rfl⟩

/-- The grid is chosen so that the multiple has 53 bits, unless it is the finest. -/
theorem canonical_round (negative : Bool) (num : Nat) (positive : 0 < den) :
    (round negative num den).Canonical := by
  by_cases none : num = 0
  · rw [round, if_pos none]
    exact canonical_zero negative
  · obtain ⟨low, high⟩ := floorLog_bounds (Nat.pos_of_ne_zero none) positive
    obtain ⟨n, d, dpos, same, ratio⟩ := nearestMultiple_eq positive num (gridExponent num den)
    have scale := two_zpow_pos (gridExponent num den)
    -- rounding may reach the next power of two, which is then moved to the next exponent
    have most : nearestMultiple num den (gridExponent num den) ≤ 2 ^ 53 := by
      rw [same]
      apply nearest_le _ dpos
      rw [ratio, div_lt_iff₀ scale]
      have reached : (2 : ℚ) ^ (floorLog num den + 1) ≤ (2 : ℚ) ^ (53 + gridExponent num den) := by
        apply zpow_le_zpow_right₀ (by norm_num)
        rw [gridExponent]
        omega
      rw [two_zpow_succ, zpow_add₀ (by norm_num)] at reached
      exact high.trans_le (by exact_mod_cast reached)
    have least : gridExponent num den = leastExponent ∨
        2 ^ 52 ≤ nearestMultiple num den (gridExponent num den) := by
      by_cases finest : gridExponent num den = leastExponent
      · exact .inl finest
      · have grid : gridExponent num den = floorLog num den - 52 := by
          rw [gridExponent] at finest ⊢
          omega
        refine .inr ?_
        rw [same]
        apply le_nearest _ dpos
        rw [ratio, le_div_iff₀ scale, grid]
        have split : (2 : ℚ) ^ (52 : Int) * (2 : ℚ) ^ (floorLog num den - 52) =
            (2 : ℚ) ^ floorLog num den := by
          rw [← zpow_add₀ (by norm_num), add_sub_cancel]
        exact le_of_eq_of_le (by exact_mod_cast split) low
    have bottom : leastExponent ≤ gridExponent num den := Int.le_max_left _ _
    rw [round_of_multiple none rfl rfl]
    split_ifs with full above above
    · trivial
    · exact ⟨by decide, by omega, by omega, .inl (Nat.le_refl _)⟩
    · trivial
    · exact ⟨by omega, bottom, by omega, least.symm⟩

/-! What operations give. -/

theorem canonical_ofNat (n : Nat) : (ofNat n).Canonical := canonical_round _ _ Nat.one_pos

theorem canonical_ofScaled (negative : Bool) (n : Nat) (k : Int) :
    (ofScaled negative n k).Canonical := by
  rw [ofScaled]
  split
  · exact canonical_round _ _ Nat.one_pos
  · exact canonical_round _ _ (Nat.pow_pos (by decide))

theorem canonical_neg {x : Binary64} (canonical : x.Canonical) : x.neg.Canonical := by
  cases x with
  | nan => trivial
  | infinite s => trivial
  | finite s m e => exact canonical

theorem canonical_mul (x y : Binary64) : (x.mul y).Canonical := by
  fun_cases mul x y
  case case8 =>
    exact canonical_round _ _ (Nat.mul_pos (denominator_pos _) (denominator_pos _))
  all_goals trivial

theorem canonical_div (x y : Binary64) : (x.div y).Canonical := by
  fun_cases div x y
  case case5 => exact canonical_zero _
  case case8 some =>
    exact canonical_round _ _
      (Nat.mul_pos (denominator_pos _) (numerator_pos (Nat.pos_of_ne_zero some)))
  all_goals trivial

/-! What is rounded to a number. -/

/-- Half the distance to the number below, as a part of the last place. Below a power of two that
number is half as far. -/
def slack (m : Nat) (e : Int) : ℚ := if m = 2 ^ 52 ∧ leastExponent < e then 1 / 4 else 1 / 2

/-- The fractions closer to a positive number than to its neighbours, and the ends if the mantissa
is even. -/
structure Within (r : ℚ) (m : Nat) (e : Int) : Prop where
  low : (m - slack m e) * (2 : ℚ) ^ e ≤ r
  high : r ≤ (m + 1 / 2) * (2 : ℚ) ^ e
  tie : r = (m - slack m e) * (2 : ℚ) ^ e ∨ r = (m + 1 / 2) * (2 : ℚ) ^ e → m % 2 = 0

theorem round_of_grid (some : num ≠ 0) (positive : 0 < den) (grid : gridExponent num den = e)
    (rounds : RoundsTo (num / den / (2 : ℚ) ^ e) m) (small : m ≠ 2 ^ 53)
    (top : e ≤ greatestExponent) : round negative num den = .finite negative m e := by
  obtain ⟨n, d, dpos, same, ratio⟩ := nearestMultiple_eq positive num e
  rw [← ratio] at rounds
  rw [round_of_multiple some grid (same.trans (nearest_eq dpos rounds)), if_neg small]
  exact if_neg (by omega)

theorem round_of_finer_grid (some : num ≠ 0) (positive : 0 < den)
    (grid : gridExponent num den = e) (rounds : RoundsTo (num / den / (2 : ℚ) ^ e) (2 ^ 53))
    (top : e + 1 ≤ greatestExponent) :
    round negative num den = .finite negative (2 ^ 52) (e + 1) := by
  obtain ⟨n, d, dpos, same, ratio⟩ := nearestMultiple_eq positive num e
  rw [← ratio] at rounds
  rw [round_of_multiple some grid (same.trans (nearest_eq dpos rounds)), if_pos rfl]
  exact if_neg (by omega)

theorem round_of_near (canonical : (finite negative m e).Canonical) (some : 0 < m)
    (positive : 0 < den) (rounds : RoundsTo (num / den / (2 : ℚ) ^ e) m)
    (above : e = leastExponent ∨ 2 ^ 52 * (2 : ℚ) ^ e ≤ num / den) :
    round negative num den = .finite negative m e := by
  obtain ⟨bits, bottom, top, full⟩ := canonical
  have scale := two_zpow_pos e
  have unit : (1 : ℚ) ≤ m := by exact_mod_cast some
  have most : (m : ℚ) + 1 ≤ 2 ^ 53 := by exact_mod_cast bits
  have least : (0 : ℚ) < num / den / (2 : ℚ) ^ e := lt_of_lt_of_le (by linarith) rounds.1
  have nonzero : num ≠ 0 := by
    rintro rfl
    simp at least
  have under : (num : ℚ) / den < 2 ^ 53 * (2 : ℚ) ^ e := by
    rw [← div_lt_iff₀ scale]
    exact rounds.2.1.trans_lt (by linarith)
  -- the fraction lies in the binade of the number, or below it where all share the finest grid
  have grid : gridExponent num den = e := by
    rcases above with finest | above
    · have log := (floorLog_bounds (Nat.pos_of_ne_zero nonzero) positive).1.trans_lt under
      rw [← zpow_natCast, ← zpow_add₀ (by norm_num)] at log
      have := (zpow_lt_zpow_iff_right₀ (by norm_num : (1 : ℚ) < 2)).mp log
      rw [leastExponent] at finest
      rw [gridExponent, leastExponent]
      omega
    · have split : (2 : ℚ) ^ (e + 52) = 2 ^ 52 * (2 : ℚ) ^ e := by
        rw [zpow_add₀ (by norm_num), mul_comm]
        norm_num
      have log : floorLog num den = e + 52 := by
        apply floorLog_eq (Nat.pos_of_ne_zero nonzero) positive
        · rw [split]
          exact above
        · rw [split]
          linarith
      rw [gridExponent, log]
      omega
  exact round_of_grid nonzero positive grid rounds (by omega) top

/-- Just below a power of two, on a finer grid. -/
theorem round_of_below_power (normal : leastExponent < e) (top : e ≤ greatestExponent)
    (positive : 0 < den) (low : ((2 ^ 52 : Nat) - 1 / 4) * (2 : ℚ) ^ e ≤ num / den)
    (less : (num : ℚ) / den < 2 ^ 52 * (2 : ℚ) ^ e) :
    round negative num den = .finite negative (2 ^ 52) e := by
  have half := two_zpow_succ (e - 1)
  rw [sub_add_cancel] at half
  have scale := two_zpow_pos (e - 1)
  push_cast at low
  have nonzero : num ≠ 0 := by
    rintro rfl
    rw [Nat.cast_zero, zero_div] at low
    have := two_zpow_pos e
    linarith
  have log : floorLog num den = e + 51 := by
    have split : (2 : ℚ) ^ (e + 51) = 2 ^ 51 * (2 : ℚ) ^ e := by
      rw [zpow_add₀ (by norm_num), mul_comm]
      norm_num
    apply floorLog_eq (Nat.pos_of_ne_zero nonzero) positive
    · rw [split]
      linarith
    · rw [split]
      linarith
  have grid : gridExponent num den = e - 1 := by
    rw [gridExponent, log]
    omega
  -- a quarter of a place is a half on the finer grid
  have rounds : RoundsTo ((num : ℚ) / den / (2 : ℚ) ^ (e - 1)) (2 ^ 53) := by
    rw [half] at low less
    refine ⟨?_, ?_, fun _ => by norm_num⟩
    · rw [le_div_iff₀ scale]
      push_cast
      linarith
    · rw [div_le_iff₀ scale]
      push_cast
      linarith
  rw [round_of_finer_grid nonzero positive grid rounds (by omega), sub_add_cancel]

/-- Every fraction in the interval of a number is rounded to it. Just below a power of two the grid
is finer than that of the number, and the fraction is rounded up to the power. -/
theorem round_of_within (canonical : (finite negative m e).Canonical) (some : 0 < m)
    (positive : 0 < den) (within : Within (num / den) m e) :
    round negative num den = .finite negative m e := by
  obtain ⟨low, high, tie⟩ := within
  have scale := two_zpow_pos e
  have full := canonical.2.2.2
  by_cases power : m = 2 ^ 52 ∧ leastExponent < e
  · rw [slack, if_pos power] at low
    obtain ⟨rfl, normal⟩ := power
    by_cases less : (num : ℚ) / den < 2 ^ 52 * (2 : ℚ) ^ e
    · exact round_of_below_power normal canonical.2.2.1 positive low less
    · have above := le_of_not_gt less
      refine round_of_near canonical some positive ⟨?_, (div_le_iff₀ scale).mpr high, ?_⟩
        (.inr above)
      · rw [le_div_iff₀ scale]
        push_cast
        linarith
      · exact fun _ => by norm_num
  · rw [slack, if_neg power] at low tie
    refine round_of_near canonical some positive ⟨(le_div_iff₀ scale).mpr low,
      (div_le_iff₀ scale).mpr high, ?_⟩ ?_
    · rw [div_eq_iff scale.ne', div_eq_iff scale.ne']
      exact tie
    · rcases full with full | finest
      · by_cases finest : e = leastExponent
        · exact .inl finest
        · have more : (2 : ℚ) ^ 52 + 1 ≤ m := by
            have : 2 ^ 52 + 1 ≤ m := by
              have := canonical.2.1
              omega
            exact_mod_cast this
          refine .inr (le_trans ?_ low)
          gcongr
          linarith
      · exact .inl finest

variable {m' n : Nat} {e' f : Int} {s t : Bool}

theorem mul_of_within (canonical : (finite (s != t) m e).Canonical) (some : 0 < m)
    (within : Within ((m' * (2 : ℚ) ^ e') * (n * (2 : ℚ) ^ f)) m e) :
    (finite s m' e').mul (finite t n f) = finite (s != t) m e := by
  rw [← numerator_div, ← numerator_div, div_mul_div_comm] at within
  exact round_of_within canonical some
    (Nat.mul_pos (denominator_pos _) (denominator_pos _)) (by exact_mod_cast within)

theorem div_of_within (canonical : (finite (s != t) m e).Canonical) (some : 0 < m) (divisor : 0 < n)
    (within : Within ((m' * (2 : ℚ) ^ e') / (n * (2 : ℚ) ^ f)) m e) :
    (finite s m' e').div (finite t n f) = finite (s != t) m e := by
  rw [← numerator_div, ← numerator_div, div_div_div_eq] at within
  rw [div, if_neg (Nat.pos_iff_ne_zero.mp divisor)]
  exact round_of_within canonical some
    (Nat.mul_pos (denominator_pos _) (numerator_pos divisor)) (by exact_mod_cast within)

theorem within_self (m : Nat) (e : Int) : Within (m * (2 : ℚ) ^ e) m e := by
  have scale := two_zpow_pos e
  have slackPos : 0 < slack m e := by
    rw [slack]
    split_ifs <;> norm_num
  refine ⟨?_, ?_, ?_⟩
  · gcongr
    linarith
  · gcongr
    linarith
  · rintro (same | same)
    · have := mul_right_cancel₀ scale.ne' same
      linarith
    · have := mul_right_cancel₀ scale.ne' same
      linarith

/-- A mantissa of 53 bits can be moved up until it is canonical. -/
theorem exists_canonical (negative : Bool) (bits : m < 2 ^ 53) (bottom : leastExponent ≤ e)
    (top : e ≤ greatestExponent) (some : 0 < m) :
    ∃ m' e', (finite negative m' e').Canonical ∧ 0 < m' ∧
      (m' : ℚ) * (2 : ℚ) ^ e' = m * (2 : ℚ) ^ e := by
  -- up to the last of 53 places, unless the exponent runs out before
  obtain ⟨j, shift⟩ : ∃ j : Nat, j = min (52 - m.log2) (e - leastExponent).toNat := ⟨_, rfl⟩
  have low := Nat.log2_self_le (Nat.pos_iff_ne_zero.mp some)
  have high := Nat.lt_log2_self (n := m)
  have log : m.log2 < 53 := (Nat.pow_lt_pow_iff_right (by decide)).mp (low.trans_lt bits)
  refine ⟨m * 2 ^ j, e - j, ⟨?_, by omega, by omega, ?_⟩, Nat.mul_pos some (Nat.two_pow_pos _), ?_⟩
  · calc m * 2 ^ j < 2 ^ (m.log2 + 1) * 2 ^ j := Nat.mul_lt_mul_of_pos_right high (Nat.two_pow_pos _)
      _ = 2 ^ (m.log2 + 1 + j) := (pow_add _ _ _).symm
      _ ≤ 2 ^ 53 := Nat.pow_le_pow_right (by decide) (by omega)
  · by_cases whole : j = 52 - m.log2
    · refine .inl ?_
      calc 2 ^ 52 = 2 ^ m.log2 * 2 ^ j := by rw [← pow_add]; congr 1; omega
        _ ≤ m * 2 ^ j := Nat.mul_le_mul_right _ low
    · exact .inr (by omega)
  · rw [zpow_sub₀ (by norm_num), zpow_natCast]
    push_cast
    field_simp

/-- A fraction of 53 bits on some grid in range is not rounded. -/
theorem round_exact (bits : m < 2 ^ 53) (bottom : leastExponent ≤ e) (top : e ≤ greatestExponent)
    (positive : 0 < den) (same : (num : ℚ) / den = m * (2 : ℚ) ^ e) :
    ∃ m' e', round negative num den = .finite negative m' e' ∧
      (m' : ℚ) * (2 : ℚ) ^ e' = m * (2 : ℚ) ^ e := by
  rcases Nat.eq_zero_or_pos m with rfl | some
  · have dpos : (0 : ℚ) < den := by exact_mod_cast positive
    rw [Nat.cast_zero, zero_mul, div_eq_zero_iff, or_iff_left dpos.ne'] at same
    rw [Nat.cast_eq_zero.mp same]
    exact ⟨0, leastExponent, rfl, by simp⟩
  · obtain ⟨m', e', canonical, some', value⟩ := exists_canonical negative bits bottom top some
    have within := within_self m' e'
    rw [value, ← same] at within
    exact ⟨m', e', round_of_within canonical some' positive within, value⟩

theorem ofNat_exact {n : Nat} (bits : n < 2 ^ 53) :
    ∃ m e, ofNat n = .finite false m e ∧ (m : ℚ) * (2 : ℚ) ^ e = n := by
  have whole : (n : ℚ) / (1 : Nat) = n * (2 : ℚ) ^ (0 : Int) := by simp
  obtain ⟨m, e, rounded, value⟩ :=
    round_exact bits (by decide) (by decide) Nat.one_pos whole
  exact ⟨m, e, rounded, by simpa using value⟩

/-- A power of ten is not rounded as long as that of five has 53 bits. -/
theorem tablePower_exact {k : Nat} (small : k ≤ 22) :
    ∃ m e, Literal.tablePower k = .finite false m e ∧ (m : ℚ) * (2 : ℚ) ^ e = 10 ^ k := by
  have bits : 5 ^ k < 2 ^ 53 :=
    lt_of_le_of_lt (Nat.pow_le_pow_right (by decide) small) (by decide)
  have split : ((1 * 10 ^ k : Nat) : ℚ) / (1 : Nat) = (5 ^ k : Nat) * (2 : ℚ) ^ (k : Int) := by
    rw [zpow_natCast, Nat.cast_one, div_one, one_mul]
    push_cast
    rw [← mul_pow]
    norm_num
  have top : (k : Int) ≤ greatestExponent := by
    rw [greatestExponent]
    omega
  have bottom : leastExponent ≤ (k : Int) := by
    rw [leastExponent]
    omega
  obtain ⟨m, e, rounded, value⟩ := round_exact bits bottom top Nat.one_pos split
  refine ⟨m, e, ?_, ?_⟩
  · rw [Literal.tablePower, ofScaled, if_pos (Int.natCast_nonneg k), Int.toNat_natCast, Nat.pow_eq]
    exact rounded
  · rw [value, ← split]
    push_cast
    ring

end HeaderRelay.Binary64
