import HeaderRelay.Json.Numeral
import HeaderRelay.Json.Reader
import HeaderRelay.Proofs.Numeration
import Mathlib.Data.List.Induction

set_option autoImplicit false

namespace HeaderRelay

namespace Literal

/-- A literal that can be written as a number. -/
structure Valid (l : Literal) : Prop where
  whole : Decimal.Numeric l.whole
  /-- No digit follows a leading zero. -/
  unpadded : ∀ d ds, l.whole ≠ '0' :: d :: ds
  fraction : ∀ ds, l.fraction = some ds → Decimal.Numeric ds
  exponent : ∀ down ds, l.exponent = some (down, ds) → Decimal.Numeric ds

def signChars (negative : Bool) : List Char := if negative then ['-'] else []

/-- The digits after the point as they are written. -/
def fractionChars : Option (List Char) → List Char
  | none => []
  | some ds => '.' :: ds

def exponentChars : Option (Bool × List Char) → List Char
  | none => []
  | some (down, ds) => 'e' :: (if down then '-' else '+') :: ds

theorem scanWhole_eq {ds : List Char} (fits : Decimal.value ds ≤ Binary64.greatestWord) :
    scanWhole ds = ⟨Decimal.value ds, 0, false⟩ := by
  induction ds using List.reverseRecOn with
  | nil => rfl
  | append_singleton ds c ih =>
    rw [Decimal.value_append_singleton] at fits ⊢
    have before := ih (by omega)
    rw [scanWhole] at before ⊢
    have within : ¬ Binary64.greatestWord < Decimal.value ds * 10 + Decimal.digitValue c := by omega
    rw [List.foldl_append, before]
    simp only [List.foldl_cons, List.foldl_nil, Scan.pushWhole, within, decide_false,
      Bool.or_self, Bool.false_eq_true, if_false]

/-- The literal of a natural number of 64 bits stands for the number. -/
theorem numeral?_ofNat {n : Nat} (fits : n < 2 ^ 64) : (ofNat n).numeral? = some (.natural n) := by
  have value := Decimal.value_digits n
  have small : Decimal.value (Decimal.digits n) ≤ Binary64.greatestWord := by
    have greatest : Binary64.greatestWord = 2 ^ 64 - 1 := rfl
    omega
  have scan := scanWhole_eq small
  simp only [numeral?, ofNat, scan, value, Option.isSome_none, Bool.false_eq_true, or_self,
    if_false, if_true]

theorem natural?_ofNat {n : Nat} (fits : n < 2 ^ 64) : (ofNat n).natural? = some n := by
  rw [natural?, numeral?_ofNat fits]

theorem valid_ofNat (n : Nat) : (ofNat n).Valid where
  whole := Decimal.numeric_digits n
  unpadded := Decimal.digits_unpadded n
  fraction := by
    intro ds same
    cases same
  exponent := by
    intro down ds same
    cases same

theorem chars_eq (l : Literal) :
    l.chars = signChars l.negative ++ (l.whole ++ (fractionChars l.fraction ++
      exponentChars l.exponent)) := by
  rw [chars, List.append_assoc, List.append_assoc]
  rfl

end Literal

namespace Json

open Literal (signChars fractionChars exponentChars)

variable {ds : List Char} {gs rest : List Glyph}

def NoDigit (gs : List Glyph) : Prop := ∀ c after, gs = some c :: after → Decimal.isDigit c = false

/-- Nothing comes next that could belong to a number. -/
def Ends (gs : List Glyph) : Prop :=
  ∀ c after, gs = some c :: after →
    Decimal.isDigit c = false ∧ c ≠ '.' ∧ isExponentMark (some c) = false

theorem Ends.noDigit (ends : Ends gs) : NoDigit gs := fun c after same => (ends c after same).1

theorem noDigit_cons {c : Char} (other : Decimal.isDigit c = false) : NoDigit (some c :: gs) := by
  rintro d after ⟨⟩
  exact other

theorem ends_nil : Ends [] := by
  intro c after same
  cases same

theorem ends_cons {c : Char} (digit : Decimal.isDigit c = false) (point : c ≠ '.')
    (mark : isExponentMark (some c) = false) : Ends (some c :: gs) := by
  rintro d after ⟨⟩
  exact ⟨digit, point, mark⟩

theorem digits_of_noDigit (stop : NoDigit rest) : digits rest = ([], rest) := by
  cases rest with
  | nil => rfl
  | cons g rest =>
    cases g with
    | none => rfl
    | some c =>
      have other := stop c rest rfl
      simp [digits, other]

theorem digits_append (all : ∀ c ∈ ds, Decimal.isDigit c = true) (stop : NoDigit rest) :
    digits (ds.map some ++ rest) = (ds, rest) := by
  induction ds with
  | nil => exact digits_of_noDigit stop
  | cons d ds ih =>
    have digit := all d List.mem_cons_self
    have later := ih fun c member => all c (List.mem_cons_of_mem _ member)
    simp only [List.map_cons, List.cons_append, digits, digit, if_true, later]

theorem digits_split (gs : List Glyph) : gs = (digits gs).1.map some ++ (digits gs).2 := by
  fun_induction digits gs with
  | case1 c rest digit ds after read ih =>
    rw [read] at ih
    simpa using ih
  | case2 c rest other => rfl
  | case3 gs foreign => rfl

theorem digits_all (gs : List Glyph) : ∀ c ∈ (digits gs).1, Decimal.isDigit c = true := by
  fun_induction digits gs with
  | case1 c rest digit ds after read ih =>
    rw [read] at ih
    exact List.forall_mem_cons.mpr ⟨digit, ih⟩
  | case2 c rest other => simp
  | case3 gs foreign => simp

/-- Digits that are read are digits, and stand at the beginning. -/
theorem digits_sound {ds : List Char} (read : digits gs = (ds, rest)) :
    gs = ds.map some ++ rest ∧ ∀ c ∈ ds, Decimal.isDigit c = true := by
  have split := digits_split gs
  have all := digits_all gs
  rw [read] at split all
  exact ⟨split, all⟩

/-- A sign is written, or left out for plus. -/
inductive SignOf : Bool → List Char → Prop
  | omitted : SignOf false []
  | plus : SignOf false ['+']
  | minus : SignOf true ['-']

/-- An exponent is written, or left out. -/
inductive ExponentOf : Option (Bool × List Char) → List Char → Prop
  | omitted : ExponentOf none []
  | given {mark : Char} {down : Bool} {sign ds : List Char}
      (marks : isExponentMark (some mark) = true) (signs : SignOf down sign)
      (numeric : Decimal.Numeric ds) : ExponentOf (some (down, ds)) (mark :: (sign ++ ds))

inductive NumberOf : Literal → List Char → Prop
  | intro {l : Literal} {tail : List Char} (valid : l.Valid)
      (exponent : ExponentOf l.exponent tail) :
      NumberOf l (signChars l.negative ++ (l.whole ++ (fractionChars l.fraction ++ tail)))

theorem numberOf_chars {l : Literal} (valid : l.Valid) : NumberOf l l.chars := by
  obtain ⟨negative, whole, fraction, exponent⟩ := l
  rw [Literal.chars_eq]
  refine .intro valid ?_
  rcases exponent with _ | ⟨down, ds⟩
  · exact .omitted
  · cases down with
    | true => exact .given rfl .minus (valid.exponent true ds rfl)
    | false => exact .given rfl .plus (valid.exponent false ds rfl)

theorem sign_append {down : Bool} {sign : List Char} (signs : SignOf down sign)
    (numeric : Decimal.Numeric ds) (rest : List Glyph) :
    Json.sign ((sign ++ ds).map some ++ rest) = (down, ds.map some ++ rest) := by
  cases signs with
  | plus => rfl
  | minus => rfl
  | omitted =>
    cases ds with
    | nil => exact absurd rfl numeric.1
    | cons d ds =>
      have digit := numeric.2 d List.mem_cons_self
      unfold Json.sign
      split
      · rename_i same
        cases same
        cases digit
      · rename_i same
        cases same
        cases digit
      · rfl

theorem sign_sound {down : Bool} (read : sign gs = (down, rest)) :
    ∃ signs, SignOf down signs ∧ gs = signs.map some ++ rest := by
  unfold sign at read
  split at read
  · cases read
    exact ⟨['-'], .minus, rfl⟩
  · cases read
    exact ⟨['+'], .plus, rfl⟩
  · cases read
    exact ⟨[], .omitted, rfl⟩

/-- An exponent is read, and so is its absence. -/
theorem exponent_append {e : Option (Bool × List Char)} {tail : List Char}
    (written : ExponentOf e tail) (ends : Ends rest) :
    exponent (tail.map some ++ rest) = some (e, rest) := by
  cases written with
  | omitted =>
    cases rest with
    | nil => rfl
    | cons g rest =>
      have unmarked : isExponentMark g = false := by
        cases g with
        | none => rfl
        | some c => exact (ends c rest rfl).2.2
      simp [exponent, unmarked]
  | @given mark down sign ds marks signs numeric =>
    have digits := digits_append numeric.2 ends.noDigit
    rw [List.map_cons, List.cons_append, exponent, if_pos marks, sign_append signs numeric]
    dsimp only
    rw [digits]
    split
    · rename_i same
      exact absurd (congrArg Prod.fst same) numeric.1
    · rename_i same
      cases same
      rfl

theorem exponent_sound {e : Option (Bool × List Char)} (read : exponent gs = some (e, rest)) :
    ∃ tail, ExponentOf e tail ∧ gs = tail.map some ++ rest := by
  unfold exponent at read
  split at read
  · rename_i g after
    split at read
    · rename_i marks
      cases g with
      | none => cases marks
      | some mark =>
        have both : sign after = ((sign after).1, (sign after).2) := rfl
        obtain ⟨signs, signed, split⟩ := sign_sound both
        dsimp only at read
        split at read
        · cases read
        · rename_i ds final nonempty number
          cases read
          obtain ⟨same, all⟩ := digits_sound number
          have some : ds ≠ [] := by
            rintro rfl
            exact nonempty rfl
          refine ⟨mark :: (signs ++ ds), .given marks signed ⟨some, all⟩, ?_⟩
          rw [split, same]
          simp
    · cases read
      exact ⟨[], .omitted, rfl⟩
  · cases read
    exact ⟨[], .omitted, rfl⟩

/-- The digits after a point are read, and so is their absence. -/
theorem fraction_append (f : Option (List Char)) (valid : ∀ ds, f = some ds → Decimal.Numeric ds)
    (stop : NoDigit rest) (point : ∀ after, rest ≠ some '.' :: after) :
    fraction ((fractionChars f).map some ++ rest) = some (f, rest) := by
  cases f with
  | none =>
    unfold fraction
    split
    · rename_i after same
      exact absurd same (point after)
    · rfl
  | some ds =>
    obtain ⟨nonempty, all⟩ := valid ds rfl
    simp only [fractionChars, List.map_cons, List.cons_append, fraction, digits_append all stop]

theorem fraction_sound {f : Option (List Char)} (read : fraction gs = some (f, rest)) :
    (∀ ds, f = some ds → Decimal.Numeric ds) ∧ gs = (fractionChars f).map some ++ rest := by
  unfold fraction at read
  split at read
  · split at read
    · cases read
    · rename_i ds after nonempty number
      cases read
      obtain ⟨rfl, all⟩ := digits_sound number
      refine ⟨?_, rfl⟩
      rintro _ ⟨⟩
      refine ⟨?_, all⟩
      rintro rfl
      exact nonempty rfl
  · cases read
    exact ⟨by simp, rfl⟩

/-- What follows the digits of a number begins with no digit and no point. -/
theorem exponent_separate {e : Option (Bool × List Char)} {tail : List Char}
    (written : ExponentOf e tail) (ends : Ends rest) :
    NoDigit (tail.map some ++ rest) ∧ ∀ after, tail.map some ++ rest ≠ some '.' :: after := by
  cases written with
  | omitted =>
    refine ⟨ends.noDigit, fun after same => ?_⟩
    exact (ends '.' after same).2.1 rfl
  | @given mark down sign ds marks signs numeric =>
    have other : Decimal.isDigit mark = false ∧ mark ≠ '.' := by
      unfold isExponentMark at marks
      split at marks
      · rename_i same
        cases same
        decide
      · rename_i same
        cases same
        decide
      · cases marks
    refine ⟨noDigit_cons other.1, fun after same => ?_⟩
    cases same
    exact other.2 rfl

theorem fraction_separate (f : Option (List Char)) (stop : NoDigit rest) :
    NoDigit ((fractionChars f).map some ++ rest) := by
  cases f with
  | none => exact stop
  | some ds => exact noDigit_cons rfl

/-- A number without its sign is read. -/
theorem unsigned_append {l : Literal} {tail : List Char} (valid : l.Valid)
    (written : ExponentOf l.exponent tail) (ends : Ends rest) :
    unsigned l.negative ((l.whole ++ (fractionChars l.fraction ++ tail)).map some ++ rest) =
      some (l, rest) := by
  obtain ⟨stop, point⟩ := exponent_separate written ends
  have last := exponent_append written ends
  have middle := fraction_append l.fraction valid.fraction stop point
  have front := digits_append valid.whole.2 (fraction_separate l.fraction stop)
  simp only [List.map_append, List.append_assoc, unsigned, front]
  split
  · rename_i empty
    exact absurd (congrArg Prod.fst empty) valid.whole.1
  · rename_i padded
    exact absurd (congrArg Prod.fst padded) (valid.unpadded _ _)
  · rename_i same
    cases same
    simp only [middle, last]

theorem unsigned_sound {negative : Bool} {l : Literal}
    (read : unsigned negative gs = some (l, rest)) :
    l.negative = negative ∧ l.Valid ∧ ∃ tail, ExponentOf l.exponent tail ∧
      gs = (l.whole ++ (fractionChars l.fraction ++ tail)).map some ++ rest := by
  unfold unsigned at read
  split at read
  · cases read
  · cases read
  · rename_i whole after nonempty unpadded number
    split at read
    · cases read
    · rename_i fraction after' middle
      split at read
      · cases read
      · rename_i exponent after'' last
        cases read
        obtain ⟨split, all⟩ := digits_sound number
        obtain ⟨numeric, split'⟩ := fraction_sound middle
        obtain ⟨tail, written, split''⟩ := exponent_sound last
        have valid : Literal.Valid ⟨negative, whole, fraction, exponent⟩ := by
          refine ⟨⟨?_, all⟩, ?_, numeric, ?_⟩
          · rintro rfl
            exact nonempty rfl
          · rintro d ds rfl
            exact unpadded d ds rfl
          · rintro down ds rfl
            cases written with
            | given marks signs numeric => exact numeric
        refine ⟨rfl, valid, tail, written, ?_⟩
        rw [split, split', split'']
        simp

/-- A number is read where it is written, as long as nothing follows that could belong to it. -/
theorem literal_append {l : Literal} {cs : List Char} (written : NumberOf l cs)
    (ends : Ends rest) : literal (cs.map some ++ rest) = some (l, rest) := by
  obtain ⟨valid, exponent⟩ := written
  have reads := unsigned_append valid exponent ends
  obtain ⟨negative, whole, fraction, exponent⟩ := l
  cases negative with
  | true => exact reads
  | false =>
    cases whole with
    | nil => exact absurd rfl valid.whole.1
    | cons d whole =>
      have digit : Decimal.isDigit d = true := valid.whole.2 d List.mem_cons_self
      have unsigned : d ≠ '-' := by
        rintro rfl
        cases digit
      unfold literal
      split
      · rename_i same
        cases same
        exact absurd rfl unsigned
      · exact reads

theorem literal_sound {l : Literal} (read : literal gs = some (l, rest)) :
    ∃ cs, NumberOf l cs ∧ gs = cs.map some ++ rest := by
  unfold literal at read
  split at read
  · obtain ⟨negative, valid, tail, written, rfl⟩ := unsigned_sound read
    refine ⟨_, .intro valid written, ?_⟩
    rw [negative]
    rfl
  · obtain ⟨negative, valid, tail, written, rfl⟩ := unsigned_sound read
    refine ⟨_, .intro valid written, ?_⟩
    rw [negative]
    rfl

end Json

end HeaderRelay
