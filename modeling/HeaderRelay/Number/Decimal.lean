import HeaderRelay.Number.Radix

set_option autoImplicit false

namespace HeaderRelay.Decimal

/-- Whether a character is one of the ten digits. -/
def isDigit (c : Char) : Bool := 48 ≤ c.toNat && c.toNat ≤ 57

def digitValue (c : Char) : Nat := c.toNat - 48

def digitChar (n : Nat) : Char := Char.ofNat (48 + n)

/-- The decimal digits of a number, without leading zeros. -/
def digits (n : Nat) : List Char :=
  if n = 0 then ['0'] else (Radix.digits 10 n).reverse.map digitChar

def value (cs : List Char) : Nat := Radix.value 10 (cs.reverse.map digitValue)

/-- The number a text of one or more digits stands for. -/
def value? (cs : List Char) : Option Nat :=
  if cs ≠ [] ∧ cs.all isDigit = true then some (value cs) else none

theorem toNat_digitChar {n : Nat} (h : n < 10) : (digitChar n).toNat = 48 + n := by
  have : ∀ m : Fin 10, (digitChar m.val).toNat = 48 + m.val := by decide
  exact this ⟨n, h⟩

theorem digitValue_digitChar {n : Nat} (h : n < 10) : digitValue (digitChar n) = n := by
  simp [digitValue, toNat_digitChar h]

theorem isDigit_digitChar {n : Nat} (h : n < 10) : isDigit (digitChar n) = true := by
  simp [isDigit, toNat_digitChar h]
  omega

theorem value_digits (n : Nat) : value (digits n) = n := by
  by_cases h : n = 0
  · subst h; decide
  · have hmap : (Radix.digits 10 n).map (digitValue ∘ digitChar) = Radix.digits 10 n := by
      conv => rhs; rw [← List.map_id (Radix.digits 10 n)]
      apply List.map_congr_left
      intro d hd
      exact digitValue_digitChar (Radix.digits_lt (by decide) n d hd)
    simp only [value, digits, if_neg h, List.map_reverse, List.reverse_reverse, List.map_map,
      hmap]
    exact Radix.value_digits (by decide) n

theorem digits_all_isDigit (n : Nat) : (digits n).all isDigit = true := by
  by_cases h : n = 0
  · subst h; decide
  · simp only [digits, if_neg h, List.all_eq_true, List.mem_map, List.mem_reverse]
    rintro c ⟨d, hd, rfl⟩
    exact isDigit_digitChar (Radix.digits_lt (by decide) n d hd)

end HeaderRelay.Decimal
