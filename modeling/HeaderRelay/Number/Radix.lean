set_option autoImplicit false

namespace HeaderRelay.Radix

/-- At most `count` digits of `n`, the least significant first. -/
def digitsUpTo (base : Nat) : Nat → Nat → List Nat
  | 0, _ => []
  | count + 1, n => if n = 0 then [] else n % base :: digitsUpTo base count (n / base)

/-- The digits of `n`, the least significant first; zero has none. -/
def digits (base n : Nat) : List Nat := digitsUpTo base n n

/-- The value of digits, the least significant first. -/
def value (base : Nat) : List Nat → Nat
  | [] => 0
  | d :: rest => d + base * value base rest

theorem value_digitsUpTo {base : Nat} (hb : 2 ≤ base) {count n : Nat} (h : n ≤ count) :
    value base (digitsUpTo base count n) = n := by
  induction count generalizing n with
  | zero => simp [digitsUpTo, value]; omega
  | succ count ih =>
    unfold digitsUpTo
    split
    · simp [value]; omega
    · have hlt : n / base < n := Nat.div_lt_self (by omega) (by omega)
      simp only [value, ih (show n / base ≤ count by omega)]
      exact Nat.mod_add_div n base

theorem value_digits {base : Nat} (hb : 2 ≤ base) (n : Nat) : value base (digits base n) = n :=
  value_digitsUpTo hb (Nat.le_refl n)

theorem digitsUpTo_lt {base : Nat} (hb : 2 ≤ base) (count n : Nat) :
    ∀ d ∈ digitsUpTo base count n, d < base := by
  induction count generalizing n with
  | zero => simp [digitsUpTo]
  | succ count ih =>
    unfold digitsUpTo
    split
    · simp
    · intro d hd
      rcases List.mem_cons.1 hd with rfl | hd
      · exact Nat.mod_lt _ (by omega)
      · exact ih _ d hd

theorem digits_lt {base : Nat} (hb : 2 ≤ base) (n : Nat) : ∀ d ∈ digits base n, d < base :=
  digitsUpTo_lt hb n n

end HeaderRelay.Radix
