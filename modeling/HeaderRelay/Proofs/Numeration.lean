import HeaderRelay.Number.Decimal
import Mathlib.Data.Nat.Digits.Lemmas

set_option autoImplicit false

namespace HeaderRelay

namespace Radix

variable {base count n : Nat}

theorem value_eq (base : Nat) (ds : List Nat) : value base ds = Nat.ofDigits base ds := by
  induction ds with
  | nil => rfl
  | cons d ds ih => rw [value, Nat.ofDigits_cons, ih]

theorem digitsUpTo_eq (large : 1 < base) (enough : n ≤ count) :
    digitsUpTo base count n = Nat.digits base n := by
  induction count generalizing n with
  | zero =>
    obtain rfl : n = 0 := by omega
    rw [digitsUpTo, Nat.digits_zero]
  | succ count ih =>
    rw [digitsUpTo]
    split
    · rename_i zero
      rw [zero, Nat.digits_zero]
    · have smaller : n / base < n := Nat.div_lt_self (by omega) large
      have rest := ih (show n / base ≤ count by omega)
      rw [rest, ← Nat.digits_def' large (by omega)]

theorem digits_eq (large : 1 < base) (n : Nat) : digits base n = Nat.digits base n :=
  digitsUpTo_eq large (Nat.le_refl n)

end Radix

namespace Decimal

def Numeric (ds : List Char) : Prop := ds ≠ [] ∧ ∀ c ∈ ds, isDigit c = true

theorem numeric_digits (n : Nat) : Numeric (digits n) := by
  refine ⟨?_, List.all_eq_true.mp (digits_all_isDigit n)⟩
  unfold digits
  split
  · exact List.cons_ne_nil _ _
  · rename_i positive
    rw [Radix.digits_eq (by decide)]
    simp [Nat.digits_eq_nil_iff_eq_zero, positive]

theorem digits_unpadded (n : Nat) (d : Char) (ds : List Char) : digits n ≠ '0' :: d :: ds := by
  intro padded
  unfold digits at padded
  split at padded
  · cases padded
  · rename_i positive
    rw [Radix.digits_eq (by decide), List.map_reverse] at padded
    have nonempty : Nat.digits 10 n ≠ [] := Nat.digits_ne_nil_iff_ne_zero.mpr positive
    have leading := Nat.getLast_digit_ne_zero 10 positive
    have small : (Nat.digits 10 n).getLast nonempty < 10 :=
      Nat.digits_lt_base (by decide) (List.getLast_mem nonempty)
    have first : digitChar ((Nat.digits 10 n).getLast nonempty) = '0' := by
      have last := congrArg List.head? padded
      simpa [List.getLast?_eq_getLast_of_ne_nil nonempty] using last
    have back := digitValue_digitChar small
    rw [first] at back
    exact leading back.symm

/-- Digits are read from the left by taking ten times what came before. -/
theorem value_append_singleton (ds : List Char) (c : Char) :
    value (ds ++ [c]) = value ds * 10 + digitValue c := by
  simp only [value, List.reverse_append, List.reverse_singleton, List.singleton_append,
    List.map_cons, Radix.value]
  omega

end Decimal

end HeaderRelay
