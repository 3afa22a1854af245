import HeaderRelay.Proofs.Numerals
import HeaderRelay.Proofs.Shortest

set_option autoImplicit false

namespace HeaderRelay

namespace Decimal

variable {c : Char} {ds : List Char}

theorem value_nil : value [] = 0 := rfl

theorem value_append (ds es : List Char) :
    value (ds ++ es) = value ds * 10 ^ es.length + value es := by
  induction es using List.reverseRecOn with
  | nil => simp [value_nil]
  | append_singleton es c ih =>
    rw [← List.append_assoc, value_append_singleton, ih, value_append_singleton,
      List.length_append, List.length_singleton, pow_succ]
    ring

theorem value_cons (c : Char) (ds : List Char) :
    value (c :: ds) = digitValue c * 10 ^ ds.length + value ds := by
  have single := value_append_singleton [] c
  rw [value_nil, Nat.zero_mul, Nat.zero_add, List.nil_append] at single
  rw [← List.singleton_append, value_append, single]

theorem value_zeros (count : Nat) : value (List.replicate count '0') = 0 := by
  induction count with
  | zero => rfl
  | succ count ih =>
    rw [List.replicate_succ', value_append_singleton, ih]
    rfl

/-- The digits of a positive number do not begin with a zero. -/
theorem digits_leading {n : Nat} (some : n ≠ 0) : ∃ c ds, digits n = c :: ds ∧ c ≠ '0' := by
  cases same : digits n with
  | nil => exact absurd same (numeric_digits n).1
  | cons c ds =>
    refine ⟨c, ds, rfl, ?_⟩
    rintro rfl
    cases ds with
    | nil =>
      have back := value_digits n
      rw [same] at back
      exact some back.symm
    | cons d ds => exact digits_unpadded n d ds same

theorem numeric_cons (digit : isDigit c = true) (digits : ∀ d ∈ ds, isDigit d = true) :
    Numeric (c :: ds) :=
  ⟨List.cons_ne_nil _ _, List.forall_mem_cons.mpr ⟨digit, digits⟩⟩

theorem isDigit_zeros (count : Nat) : ∀ d ∈ List.replicate count '0', isDigit d = true := by
  intro d member
  rw [List.eq_of_mem_replicate member]
  rfl

/-- A number has as many digits as its leading one has places. -/
theorem pow_le_value (leading : c ≠ '0') (numeric : Numeric (c :: ds)) :
    10 ^ ds.length ≤ value (c :: ds) := by
  have digit := numeric.2 c List.mem_cons_self
  have positive : 1 ≤ digitValue c := by
    have other : c.toNat ≠ '0'.toNat := fun same => leading (Char.toNat_inj.mp same)
    simp only [isDigit, Bool.and_eq_true, decide_eq_true_eq] at digit
    have zero : '0'.toNat = 48 := rfl
    rw [digitValue]
    omega
  rw [value_cons]
  have := Nat.le_mul_of_pos_left (10 ^ ds.length) positive
  omega

end Decimal

namespace Literal

/-- A well-formed literal with a point or an exponent, so that it is not read as an integer, whose
value is a multiple of a power of ten. -/
structure Denotes (l : Literal) (negative : Bool) (n : Nat) (k : Int) : Prop where
  valid : l.Valid
  sign : l.negative = negative
  value : (l.significand : ℚ) * (10 : ℚ) ^ l.power = n * (10 : ℚ) ^ k
  marked : l.fraction.isSome = true ∨ l.exponent.isSome = true
  /-- With an exponent the first digit is not zero. -/
  places : l.exponent.isSome = true → 10 ^ (l.fraction.getD []).length ≤ l.significand

/-- Digits before and after the point. -/
theorem valid_pointed {negative : Bool} {whole fraction : List Char}
    (numeric : Decimal.Numeric whole) (unpadded : ∀ d ds, whole ≠ '0' :: d :: ds)
    (numeric' : Decimal.Numeric fraction) :
    Valid ⟨negative, whole, some fraction, none⟩ where
  whole := numeric
  unpadded := unpadded
  fraction := by
    intro ds same
    cases same
    exact numeric'
  exponent := by
    intro down ds same
    cases same

/-- Without an exponent the value is that of the digits less their places. -/
theorem denotes_of_valid {negative : Bool} {whole fraction : List Char} {n : Nat} {k : Int}
    (valid : Valid ⟨negative, whole, some fraction, none⟩)
    (value : (Decimal.value (whole ++ fraction) : ℚ) * (10 : ℚ) ^ (-(fraction.length : Int)) =
      n * (10 : ℚ) ^ k) :
    Denotes ⟨negative, whole, some fraction, none⟩ negative n k where
  valid := valid
  sign := rfl
  value := value
  marked := .inl rfl
  places := by
    intro absent
    cases absent

end Literal

namespace Shortest

open Literal (Denotes)

variable {c : Char} {ds : List Char} {k : Int}

theorem denotes_padded (negative : Bool) (leading : c ≠ '0') (numeric : Decimal.Numeric (c :: ds))
    (count : Nat) :
    Denotes ⟨negative, c :: ds ++ List.replicate count '0', some ['0'], none⟩ negative
      (Decimal.value (c :: ds)) count := by
  refine Literal.denotes_of_valid (Literal.valid_pointed ?_ ?_ ?_) ?_
  · refine ⟨List.cons_ne_nil _ _, fun d member => ?_⟩
    rcases List.mem_append.mp member with member | member
    · exact numeric.2 d member
    · exact Decimal.isDigit_zeros count d member
  · exact fun d es same => leading (List.cons.inj same).1
  · exact Decimal.numeric_cons rfl (by simp)
  · have digits : Decimal.value (c :: ds ++ List.replicate count '0' ++ ['0']) =
        Decimal.value (c :: ds) * 10 ^ count * 10 := by
      rw [Decimal.value_append_singleton, Decimal.value_append, Decimal.value_zeros,
        List.length_replicate]
      rfl
    rw [digits, List.length_singleton, Nat.cast_one, zpow_neg_one, zpow_natCast]
    push_cast
    ring

theorem denotes_pointed (negative : Bool) (leading : c ≠ '0') (numeric : Decimal.Numeric (c :: ds))
    {count : Nat} (some : 0 < count) (more : count < (c :: ds).length) :
    Denotes ⟨negative, (c :: ds).take count, .some ((c :: ds).drop count), none⟩ negative
      (Decimal.value (c :: ds)) (count - (c :: ds).length) := by
  obtain ⟨count, rfl⟩ := Nat.exists_eq_succ_of_ne_zero some.ne'
  refine Literal.denotes_of_valid (Literal.valid_pointed ?_ ?_ ?_) ?_
  · exact ⟨List.cons_ne_nil _ _, fun d member => numeric.2 d (List.mem_of_mem_take member)⟩
  · exact fun d es same => leading (List.cons.inj same).1
  · refine ⟨?_, fun d member => numeric.2 d (List.mem_of_mem_drop member)⟩
    rw [Ne, List.drop_eq_nil_iff]
    omega
  · rw [List.take_append_drop, List.length_drop]
    congr 2
    omega

/-- Digits behind the point, with zeros in front of them. -/
theorem denotes_small (negative : Bool) (numeric : Decimal.Numeric ds) (count : Nat) :
    Denotes ⟨negative, ['0'], some (List.replicate count '0' ++ ds), none⟩ negative
      (Decimal.value ds) (-(count + ds.length)) := by
  refine Literal.denotes_of_valid (Literal.valid_pointed ?_ ?_ ?_) ?_
  · exact Decimal.numeric_cons rfl (by simp)
  · intro d es same
    cases same
  · refine ⟨by simp [numeric.1], fun d member => ?_⟩
    rcases List.mem_append.mp member with member | member
    · exact Decimal.isDigit_zeros count d member
    · exact numeric.2 d member
  · have digits : Decimal.value (['0'] ++ (List.replicate count '0' ++ ds)) = Decimal.value ds := by
      have zeros := Decimal.value_zeros (count + 1)
      rw [List.replicate_succ] at zeros
      rw [← List.append_assoc, Decimal.value_append, List.singleton_append, zeros]
      omega
    rw [digits, List.length_append, List.length_replicate]
    push_cast
    rfl

/-- One digit before the point, and an exponent. -/
theorem denotes_scaled (negative : Bool) (leading : c ≠ '0') (numeric : Decimal.Numeric (c :: ds))
    (point : Int) :
    Denotes ⟨negative, [c], if ds = [] then none else some ds,
        some (decide (point < 1), Decimal.digits (point - 1).natAbs)⟩ negative
      (Decimal.value (c :: ds)) (point - (c :: ds).length) := by
  have tail : (if ds = [] then none else some ds).getD [] = ds := by
    split
    · rename_i none
      rw [none]
      rfl
    · rfl
  refine ⟨⟨?_, ?_, ?_, ?_⟩, rfl, ?_, .inr rfl, fun _ => ?_⟩
  · exact Decimal.numeric_cons (numeric.2 c List.mem_cons_self) (by simp)
  · intro d es same
    cases same
  · intro es same
    split at same
    · cases same
    · rename_i more
      cases same
      exact ⟨more, fun d member => numeric.2 d (List.mem_cons_of_mem c member)⟩
  · intro down es same
    cases same
    exact Decimal.numeric_digits _
  · rw [Literal.significand, tail, List.singleton_append]
    congr 2
    rw [Literal.power, tail]
    dsimp only
    rw [Decimal.value_digits, List.length_cons]
    by_cases down : point < 1
    · rw [if_pos (decide_eq_true down)]
      omega
    · rw [if_neg (by simp [down])]
      omega
  · rw [Literal.significand, tail]
    exact Decimal.pow_le_value leading numeric

theorem denotes_layout {n : Nat} (some : n ≠ 0) (negative : Bool) (k : Int) :
    Denotes (layout negative (Decimal.digits n) k) negative n k := by
  obtain ⟨c, ds, same, leading⟩ := Decimal.digits_leading some
  have numeric := Decimal.numeric_digits n
  have value := Decimal.value_digits n
  rw [same] at numeric value ⊢
  rw [← value, layout]
  dsimp only
  split_ifs with padded pointed small
  · have exact := denotes_padded negative leading numeric k.toNat
    rwa [Int.toNat_of_nonneg padded.1] at exact
  · have below : k < 0 := by
      by_contra nonneg
      exact padded ⟨by omega, pointed.2⟩
    have exact : Denotes _ negative _ ((((c :: ds).length : Int) + k).toNat - _) :=
      denotes_pointed negative leading numeric (by omega) (by omega)
    rwa [Int.toNat_of_nonneg (by omega), add_sub_cancel_left] at exact
  · have exact := denotes_small negative numeric (-(((c :: ds).length : Int) + k)).toNat
    have power : -(((-(((c :: ds).length : Int) + k)).toNat : Int) + (c :: ds).length) = k := by
      omega
    rwa [power] at exact
  · have exact := denotes_scaled negative leading numeric ((c :: ds).length + k)
    rw [add_sub_cancel_left] at exact
    cases ds with
    | nil => exact exact
    | cons d ds => exact exact

theorem literal?_finite {m : Nat} {e : Int} {negative : Bool} (some : m ≠ 0) :
    literal? (.finite negative m e) =
      .some (layout negative (Decimal.digits (ofBinary m e).1) (ofBinary m e).2) := by
  rw [literal?, if_neg some]

/-- What is written for a number other than zero lies in its interval. -/
theorem literal?_denotes {m : Nat} {e : Int} {negative : Bool} {l : Literal}
    (canonical : (Binary64.finite negative m e).Canonical) (some : m ≠ 0)
    (written : literal? (.finite negative m e) = .some l) :
    ∃ n k, Denotes l negative n k ∧
      Binary64.Within (l.significand * (10 : ℚ) ^ l.power) m e := by
  obtain ⟨nonzero, within⟩ := ofBinary_within canonical (Nat.pos_of_ne_zero some)
  have denotes := denotes_layout nonzero negative (ofBinary m e).2
  rw [literal?_finite some] at written
  obtain rfl := Option.some.inj written
  rw [← denotes.value] at within
  exact ⟨_, _, denotes, within⟩

/-- What is written for a number is well formed. -/
theorem valid_literal? {x : Binary64} {l : Literal} (canonical : x.Canonical)
    (written : literal? x = some l) : l.Valid := by
  cases x with
  | nan => cases written
  | infinite negative => cases written
  | finite negative m e =>
    by_cases zero : m = 0
    · subst zero
      cases written
      have digit : Decimal.Numeric ['0'] := Decimal.numeric_cons rfl (by simp)
      refine Literal.valid_pointed digit ?_ digit
      intro d ds same
      cases same
    · obtain ⟨_, _, denotes, -⟩ := literal?_denotes canonical zero written
      exact denotes.valid

theorem ofScaled_eq (negative : Bool) (n : Nat) (k : Int) :
    Binary64.ofScaled negative n k =
      Binary64.round negative (decimal n k).num (decimal n k).den := by
  rw [Binary64.ofScaled, decimal]
  split <;> rfl

/-- The number nearest to what is written is the number itself. -/
theorem ofScaled_literal? {x : Binary64} {l : Literal} (canonical : x.Canonical)
    (written : literal? x = some l) :
    Binary64.ofScaled l.negative l.significand l.power = x := by
  cases x with
  | nan => cases written
  | infinite negative => cases written
  | finite negative m e =>
    by_cases zero : m = 0
    · subst zero
      cases written
      have finest : e = Binary64.leastExponent := canonical.2.2.2.resolve_left (by decide)
      subst finest
      rfl
    · obtain ⟨_, _, denotes, within⟩ := literal?_denotes canonical zero written
      rw [← decimal_value] at within
      rw [ofScaled_eq, denotes.sign]
      exact Binary64.round_of_within canonical (Nat.pos_of_ne_zero zero) (decimal_den_pos _ _) within

theorem literal?_injective {x y : Binary64} {l : Literal} (canonical : x.Canonical)
    (canonical' : y.Canonical) (written : literal? x = some l) (written' : literal? y = some l) :
    x = y :=
  (ofScaled_literal? canonical written).symm.trans (ofScaled_literal? canonical' written')

end Shortest

namespace Literal

variable {l : Literal} {negative : Bool} {significand : Nat} {m : Nat} {e k : Int}

/-- Digits after the point that fit in 64 bits are all taken. -/
theorem scanFraction_eq {ds : List Char} {taken : Nat}
    (fits : significand * 10 ^ ds.length + Decimal.value ds ≤ Binary64.greatestWord) :
    scanFraction significand taken ds =
      (significand * 10 ^ ds.length + Decimal.value ds, taken + ds.length) := by
  induction ds generalizing significand taken with
  | nil => simp [scanFraction, Decimal.value_nil]
  | cons c ds ih =>
    have split : significand * 10 ^ (c :: ds).length + Decimal.value (c :: ds) =
        (significand * 10 + Decimal.digitValue c) * 10 ^ ds.length + Decimal.value ds := by
      rw [Decimal.value_cons, List.length_cons, pow_succ]
      ring
    rw [split] at fits ⊢
    have least : significand * 10 + Decimal.digitValue c ≤
        (significand * 10 + Decimal.digitValue c) * 10 ^ ds.length :=
      Nat.le_mul_of_pos_right _ (Nat.pow_pos (by decide))
    rw [scanFraction]
    rw [if_neg (by omega), ih fits, List.length_cons, Nat.add_assoc, Nat.add_comm 1]

/-- The exponent and the places after the point make up the power of ten. -/
theorem scaled?_eq (near : ∀ down ds, l.exponent = some (down, ds) →
    Decimal.value ds ≤ greatestExponent) :
    scaled? negative significand (-((l.fraction.getD []).length : Nat)) l.exponent =
      real? negative significand l.power := by
  rw [power]
  cases same : l.exponent with
  | none => rfl
  | some pair =>
    obtain ⟨down, ds⟩ := pair
    have small := near down ds same
    rw [scaled?, if_neg (by omega)]
    congr 1
    dsimp only
    split <;> omega

/-- A literal that is not an integer is read from its digits and its power of ten, if these are not
too large. -/
theorem numeral?_eq (marked : l.fraction.isSome = true ∨ l.exponent.isSome = true)
    (fits : l.significand ≤ Binary64.greatestWord)
    (near : ∀ down ds, l.exponent = some (down, ds) → Decimal.value ds ≤ greatestExponent) :
    l.numeral? = (real? l.negative l.significand l.power).map .real := by
  have value : l.significand = Decimal.value l.whole * 10 ^ (l.fraction.getD []).length +
      Decimal.value (l.fraction.getD []) := Decimal.value_append _ _
  have least : Decimal.value l.whole ≤ Decimal.value l.whole * 10 ^ (l.fraction.getD []).length :=
    Nat.le_mul_of_pos_right _ (Nat.pow_pos (by decide))
  have scaled : scaled? l.negative l.significand _ l.exponent = _ := scaled?_eq near
  rw [numeral?, scanWhole_eq (by omega), ← scaled]
  cases same : l.fraction with
  | none =>
    rw [same, Option.isSome_none, or_iff_right (by decide)] at marked
    rw [same, Option.getD_none, List.length_nil, pow_zero, mul_one, Decimal.value_nil,
      Nat.add_zero] at value
    dsimp only
    rw [if_pos (.inr marked), value]
    rfl
  | some ds =>
    rw [same, Option.getD_some] at value
    dsimp only
    rw [scanFraction_eq (value ▸ fits), ← value, Option.getD_some, Nat.zero_add]
    congr 2
    omega

/-- The exponent of a literal with few digits and a small power is small. -/
theorem Denotes.near {n : Nat} {j : Int} (denotes : l.Denotes negative n j)
    (bits : l.significand < 2 ^ 53) (small : l.power.natAbs ≤ 22) (down : Bool) (ds : List Char)
    (same : l.exponent = some (down, ds)) : Decimal.value ds ≤ greatestExponent := by
  have places := denotes.places (by rw [same]; rfl)
  -- the first digit is not zero, so there are fewer places than digits
  have few : (l.fraction.getD []).length < 16 :=
    (Nat.pow_lt_pow_iff_right (by decide)).mp (places.trans_lt (bits.trans (by decide)) : _ < 10 ^ 16)
  have greatest : greatestExponent = 2147483647 := rfl
  rw [power, same] at small
  dsimp only at small
  split at small <;> omega

/-! One rounding. -/

open Binary64 (Canonical Within)

/-- Digits of 53 bits and a power of ten that need no rounding are rounded once, together. -/
theorem real?_eq (canonical : (Binary64.finite negative m e).Canonical) (some : 0 < m)
    (bits : significand < 2 ^ 53) (small : k.natAbs ≤ 22)
    (within : Within (significand * (10 : ℚ) ^ k) m e) :
    real? negative significand k = .some (.finite negative m e) := by
  have rounded : scale 8 (Binary64.ofNat significand) k = .some (.finite false m e) := by
    obtain ⟨m', e', exact, value⟩ := Binary64.ofNat_exact bits
    obtain ⟨n, f, power, value'⟩ := Binary64.tablePower_exact small
    rw [scale, exact]
    by_cases nonneg : 0 ≤ k
    · have index : k.toNat = k.natAbs := by omega
      have scaled : (10 : ℚ) ^ k = 10 ^ k.natAbs := by
        conv_lhs => rw [← Int.natAbs_of_nonneg nonneg]
        rw [zpow_natCast]
      -- both factors are exact, so the product of the mantissas is what was written
      rw [scaled, ← value, ← value'] at within
      have product := Binary64.mul_of_within (s := false) (t := false) canonical some within
      rw [if_pos nonneg, if_pos (by omega), index, power, product]
      rfl
    · have scaled : (10 : ℚ) ^ k = (10 ^ k.natAbs)⁻¹ := by
        conv_lhs => rw [show k = -(k.natAbs : Int) by omega]
        rw [zpow_neg, zpow_natCast]
      rw [scaled, ← div_eq_mul_inv, ← value, ← value'] at within
      have divisor : 0 < n := by
        rcases Nat.eq_zero_or_pos n with rfl | divisor
        · rw [Nat.cast_zero, zero_mul] at value'
          exact absurd value'.symm (by positivity)
        · exact divisor
      have quotient := Binary64.div_of_within (s := false) (t := false) canonical some divisor within
      rw [if_neg nonneg, if_pos (by omega), power, quotient]
      rfl
  rw [real?, rounded]
  cases negative <;> rfl

end Literal

namespace Binary64

/-- A finite number is read back from its literal if the digits of that, without the point, have 53
bits, and the power of ten is at most the twenty-second either way. -/
theorem numeral?_literal? {x : Binary64} {l : Literal} (canonical : x.Canonical)
    (written : Shortest.literal? x = some l) (bits : l.significand < 2 ^ 53)
    (small : l.power.natAbs ≤ 22) : l.numeral? = some (.real x) := by
  cases x with
  | nan => cases written
  | infinite negative => cases written
  | finite negative m e =>
    by_cases zero : m = 0
    · subst zero
      cases written
      have finest : e = leastExponent := canonical.2.2.2.resolve_left (by decide)
      subst finest
      cases negative <;> decide
    · have some := Nat.pos_of_ne_zero zero
      obtain ⟨_, _, denotes, within⟩ := Shortest.literal?_denotes canonical zero written
      rw [Literal.numeral?_eq denotes.marked (bits.le.trans (by decide)) (denotes.near bits small),
        denotes.sign, Literal.real?_eq canonical some bits small within]
      rfl

end Binary64

end HeaderRelay
