import HeaderRelay.Proofs.Encoding
import HeaderRelay.Text.Hex
import Mathlib.Data.List.Forall2

set_option autoImplicit false

namespace HeaderRelay.Hex

variable {c : Char} {cs : List Char} {n position : Nat} {b : UInt8} {bytes : Bytes} {s : String}

/-- A character is the digit of a value below sixteen, in either case. -/
def IsDigitOf (c : Char) (n : Nat) : Prop := c = digitChar n ∨ c = (digitChar n).toUpper

instance (c : Char) (n : Nat) : Decidable (IsDigitOf c n) :=
  inferInstanceAs (Decidable (_ ∨ _))

/-- A text spells bytes, two digits of either case for each. -/
inductive Spells : List Char → Bytes → Prop
  | nil : Spells [] []
  | pair {high low : Char} {cs : List Char} {b : UInt8} {bytes : Bytes}
      (first : IsDigitOf high (b.toNat / 16)) (second : IsDigitOf low (b.toNat % 16))
      (others : Spells cs bytes) : Spells (high :: low :: cs) (b :: bytes)

def digits : List Char :=
  ['0', '1', '2', '3', '4', '5', '6', '7', '8', '9',
   'a', 'b', 'c', 'd', 'e', 'f',
   'A', 'B', 'C', 'D', 'E', 'F']

/-- An even number of digits of either case. -/
def Paired (cs : List Char) : Prop := cs.length % 2 = 0 ∧ ∀ c ∈ cs, c ∈ digits

instance (cs : List Char) : Decidable (Paired cs) :=
  @instDecidableAnd _ _ _ (List.decidableBAll _ _)

def byteOf (c : Char) : UInt8 := UInt8.ofNat c.toNat

theorem digit?_lt (read : digit? b = some n) : n < 16 := by
  simp only [digit?] at read
  split at read
  · cases read
    omega
  · split at read
    · cases read
      omega
    · split at read
      · cases read
        omega
      · cases read

theorem ascii_of_digit? (read : digit? b = some n) : b.toNat < 128 := by
  by_contra foreign
  have none : digit? b = none := by
    simp only [digit?, show ¬ b.toNat ≤ 57 by omega, show ¬ b.toNat ≤ 102 by omega,
      show ¬ b.toNat ≤ 70 by omega, and_false, if_false]
  rw [none] at read
  cases read

theorem digit?_byteOf (ascii : c.toNat < 128) :
    digit? (byteOf c) = some n ↔ n < 16 ∧ IsDigitOf c n := by
  have all : ∀ k : Fin 128, ∀ n : Fin 16,
      digit? (byteOf (Char.ofNat k)) = some n.val ↔ IsDigitOf (Char.ofNat k) n := by
    decide +kernel
  constructor
  · intro read
    have small := digit?_lt read
    have same := all ⟨c.toNat, ascii⟩ ⟨n, small⟩
    rw [c.ofNat_toNat] at same
    exact ⟨small, same.mp read⟩
  · rintro ⟨small, digit⟩
    have same := all ⟨c.toNat, ascii⟩ ⟨n, small⟩
    rw [c.ofNat_toNat] at same
    exact same.mpr digit

/-- The digits are the characters that are the digit of a value. -/
theorem mem_digits_iff : c ∈ digits ↔ ∃ n < 16, IsDigitOf c n := by
  have forward : digits.all (fun c => (List.range 16).any fun n => IsDigitOf c n) = true := by
    decide
  have backward : ∀ n < 16, digitChar n ∈ digits ∧ (digitChar n).toUpper ∈ digits := by decide
  constructor
  · intro member
    obtain ⟨n, small, digit⟩ := List.any_eq_true.mp (List.all_eq_true.mp forward c member)
    exact ⟨n, List.mem_range.mp small, of_decide_eq_true digit⟩
  · rintro ⟨n, small, rfl | rfl⟩
    · exact (backward n small).1
    · exact (backward n small).2

theorem ascii_of_mem_digits (digit : c ∈ digits) : c.toNat < 128 := by
  have all : digits.all (fun c => c.toNat < 128) = true := by decide
  exact of_decide_eq_true (List.all_eq_true.mp all c digit)

theorem exists_foreign (foreign : 128 ≤ c.toNat) :
    ∃ b ∈ String.utf8EncodeChar c, 128 ≤ b.toNat := by
  have large : ¬ c.val.toNat ≤ 127 := by
    show ¬ c.toNat ≤ 127
    omega
  simp only [String.utf8EncodeChar, large, if_false]
  split
  · exact ⟨_, List.mem_cons_self, by rw [Utf8.toNat_byte (by omega)]; omega⟩
  · split
    · exact ⟨_, List.mem_cons_self, by rw [Utf8.toNat_byte (by omega)]; omega⟩
    · exact ⟨_, List.mem_cons_self, by rw [Utf8.toNat_byte (by omega)]; omega⟩

/-- The bytes of a text are ASCII only if its characters are. -/
theorem ascii_of_encoded (ascii : ∀ b ∈ cs.flatMap String.utf8EncodeChar, b.toNat < 128) :
    ∀ c ∈ cs, c.toNat < 128 := by
  intro c member
  by_contra foreign
  obtain ⟨b, inside, large⟩ := exists_foreign (Nat.le_of_not_lt foreign)
  have small := ascii b (List.mem_flatMap.mpr ⟨c, member, inside⟩)
  omega

theorem encoded_ascii (ascii : ∀ c ∈ cs, c.toNat < 128) :
    cs.flatMap String.utf8EncodeChar = cs.map byteOf := by
  induction cs with
  | nil => rfl
  | cons c cs ih =>
    obtain ⟨first, others⟩ := List.forall_mem_cons.mp ascii
    have small : c.val.toNat ≤ 127 := Nat.le_of_lt_succ first
    have single : String.utf8EncodeChar c = [byteOf c] := by
      simp only [String.utf8EncodeChar, small, if_true]
      rfl
    rw [List.flatMap_cons, single, ih others, List.map_cons, List.singleton_append]

theorem pairs_cons_iff {high low : UInt8} {rest : Bytes} :
    pairs position (high :: low :: rest) = .ok bytes ↔
      ∃ h l others, digit? high = some h ∧ digit? low = some l ∧
        pairs (position + 2) rest = .ok others ∧ bytes = UInt8.ofNat (h * 16 + l) :: others := by
  rw [pairs]
  cases first : digit? high with
  | none => simp
  | some h =>
    cases second : digit? low with
    | none => simp
    | some l =>
      cases others : pairs (position + 2) rest with
      | error defect => simp [Except.map]
      | ok read => simp [Except.map, eq_comm]

theorem ascii_of_pairs : ∀ {read bytes : Bytes} {position : Nat},
    pairs position read = .ok bytes → ∀ b ∈ read, b.toNat < 128
  | [], _, _, _ => by simp
  | [_], _, _, paired => by cases paired
  | high :: low :: rest, _, _, paired => by
    obtain ⟨h, l, others, first, second, remaining, -⟩ := pairs_cons_iff.mp paired
    have later := ascii_of_pairs remaining
    exact List.forall_mem_cons.mpr ⟨ascii_of_digit? first,
      List.forall_mem_cons.mpr ⟨ascii_of_digit? second, later⟩⟩

/-- A byte is made of the values of its two digits. -/
theorem halves_iff {h l : Nat} (upper : h < 16) (lower : l < 16) :
    UInt8.ofNat (h * 16 + l) = b ↔ h = b.toNat / 16 ∧ l = b.toNat % 16 := by
  have small := b.toNat_lt
  have value : (UInt8.ofNat (h * 16 + l)).toNat = h * 16 + l := Utf8.toNat_byte (by omega)
  rw [← UInt8.toNat_inj, value]
  omega

theorem spells_cons_iff {high low : Char} :
    Spells (high :: low :: cs) bytes ↔ ∃ h l others, (h < 16 ∧ IsDigitOf high h) ∧
      (l < 16 ∧ IsDigitOf low l) ∧ Spells cs others ∧
        bytes = UInt8.ofNat (h * 16 + l) :: others := by
  constructor
  · rintro (_ | ⟨first, second, others⟩)
    rename_i b rest
    have small := b.toNat_lt
    have upper : b.toNat / 16 < 16 := by omega
    have lower : b.toNat % 16 < 16 := by omega
    refine ⟨b.toNat / 16, b.toNat % 16, rest, ⟨upper, first⟩, ⟨lower, second⟩, others, ?_⟩
    rw [(halves_iff upper lower).mpr ⟨rfl, rfl⟩]
  · rintro ⟨h, l, others, ⟨upper, first⟩, ⟨lower, second⟩, spelled, rfl⟩
    obtain ⟨above, below⟩ := (halves_iff upper lower).mp rfl
    exact .pair (above ▸ first) (below ▸ second) spelled

/-- ASCII characters are read in pairs as the bytes that they spell. -/
theorem pairs_map_iff : ∀ {cs : List Char} {bytes : Bytes} {position : Nat},
    (∀ c ∈ cs, c.toNat < 128) → (pairs position (cs.map byteOf) = .ok bytes ↔ Spells cs bytes)
  | [], bytes, _, _ => by
    constructor
    · rintro ⟨⟩
      exact .nil
    · rintro ⟨⟩
      rfl
  | [_], _, _, _ => by
    constructor
    · rintro ⟨⟩
    · rintro ⟨⟩
  | high :: low :: cs, bytes, position, ascii => by
    obtain ⟨first, further⟩ := List.forall_mem_cons.mp ascii
    obtain ⟨second, others⟩ := List.forall_mem_cons.mp further
    rw [List.map_cons, List.map_cons, pairs_cons_iff, spells_cons_iff]
    simp only [digit?_byteOf first, digit?_byteOf second, pairs_map_iff others]

theorem Spells.length_eq (spelled : Spells cs bytes) : cs.length = 2 * bytes.length := by
  induction spelled with
  | nil => rfl
  | pair first second others ih =>
    rw [List.length_cons, List.length_cons, List.length_cons, ih]
    omega

theorem Spells.digits (spelled : Spells cs bytes) : ∀ c ∈ cs, c ∈ digits := by
  induction spelled with
  | nil => simp
  | @pair high low _ b _ first second others ih =>
    have small := b.toNat_lt
    have upper : high ∈ Hex.digits := mem_digits_iff.mpr ⟨b.toNat / 16, by omega, first⟩
    have lower : low ∈ Hex.digits := mem_digits_iff.mpr ⟨b.toNat % 16, by omega, second⟩
    exact List.forall_mem_cons.mpr ⟨upper, List.forall_mem_cons.mpr ⟨lower, ih⟩⟩

theorem decodeText_iff : decodeText s = .ok bytes ↔ Spells s.toList bytes := by
  rw [decodeText, Utf8.encode_eq]
  generalize s.toList = cs
  constructor
  · intro read
    have paired : pairs 0 (cs.flatMap String.utf8EncodeChar) = .ok bytes := by
      unfold decode at read
      split at read
      · cases read
      · exact read
    have ascii := ascii_of_encoded (ascii_of_pairs paired)
    rw [encoded_ascii ascii] at paired
    exact (pairs_map_iff ascii).mp paired
  · intro spelled
    have ascii : ∀ c ∈ cs, c.toNat < 128 := fun c member =>
      ascii_of_mem_digits (spelled.digits c member)
    have even : ¬ (cs.map byteOf).length % 2 = 1 := by
      rw [List.length_map, spelled.length_eq]
      omega
    rw [encoded_ascii ascii, decode, if_neg even]
    exact (pairs_map_iff ascii).mpr spelled

/-- A text spells bytes if it is an even number of digits. -/
theorem exists_spells_iff : ∀ {cs : List Char}, (∃ bytes, Spells cs bytes) ↔ Paired cs
  | [] => ⟨fun _ => ⟨rfl, by simp⟩, fun _ => ⟨[], .nil⟩⟩
  | [_] => by
    constructor
    · rintro ⟨bytes, ⟨⟩⟩
    · rintro ⟨⟨⟩, -⟩
  | high :: low :: cs => by
    constructor
    · rintro ⟨bytes, spelled⟩
      refine ⟨?_, spelled.digits⟩
      rw [spelled.length_eq]
      omega
    · rintro ⟨even, all⟩
      obtain ⟨first, further⟩ := List.forall_mem_cons.mp all
      obtain ⟨second, others⟩ := List.forall_mem_cons.mp further
      obtain ⟨h, upper, digit⟩ := mem_digits_iff.mp first
      obtain ⟨l, lower, digit'⟩ := mem_digits_iff.mp second
      have rest : Paired cs := by
        rw [List.length_cons, List.length_cons] at even
        exact ⟨by omega, others⟩
      obtain ⟨bytes, spelled⟩ := exists_spells_iff.mpr rest
      exact ⟨_, spells_cons_iff.mpr ⟨h, l, bytes, ⟨upper, digit⟩, ⟨lower, digit'⟩, spelled, rfl⟩⟩

theorem Spells.unique {other : Bytes} (spelled : Spells cs bytes) (spelled' : Spells cs other) :
    bytes = other := by
  have read : decodeText (String.ofList cs) = .ok bytes := by
    rw [decodeText_iff, String.toList_ofList]
    exact spelled
  have read' : decodeText (String.ofList cs) = .ok other := by
    rw [decodeText_iff, String.toList_ofList]
    exact spelled'
  exact Except.ok.inj (read.symm.trans read')

end HeaderRelay.Hex
