import HeaderRelay.Ledger.Hash
import HeaderRelay.Proofs.Numeration

set_option autoImplicit false

namespace HeaderRelay

namespace Radix

variable {a b count : Nat} {ds rest : List Nat}

/-- Digits of a base in another one, the most significant first: leading zeros stay, the rest is one
number. -/
def convert (a b : Nat) (ds : List Nat) : List Nat :=
  ds.takeWhile (· == 0) ++ (digits b (value a ds.reverse)).reverse

def Leads (ds : List Nat) : Prop := ∀ d more, ds = d :: more → d ≠ 0

theorem exists_leads (ds : List Nat) :
    ∃ count rest, ds = List.replicate count 0 ++ rest ∧ Leads rest := by
  induction ds with
  | nil => exact ⟨0, [], rfl, by intro d more same; cases same⟩
  | cons d ds ih =>
    obtain ⟨count, rest, rfl, leads⟩ := ih
    cases d with
    | zero => exact ⟨count + 1, rest, rfl, leads⟩
    | succ d =>
      refine ⟨0, _, rfl, ?_⟩
      rintro e more ⟨⟩
      exact Nat.succ_ne_zero d

theorem takeWhile_leads (leads : Leads rest) :
    (List.replicate count 0 ++ rest).takeWhile (· == 0) = List.replicate count 0 := by
  rw [List.takeWhile_append_of_pos (by simp)]
  cases rest with
  | nil => simp
  | cons d rest =>
    have positive := leads d rest rfl
    simp [positive]

theorem convert_replicate (leads : Leads rest) :
    convert a b (List.replicate count 0 ++ rest) =
      List.replicate count 0 ++ (digits b (value a rest.reverse)).reverse := by
  have number : value a (List.replicate count 0 ++ rest).reverse = value a rest.reverse := by
    rw [List.reverse_append, List.reverse_replicate, value_eq, value_eq,
      Nat.ofDigits_append_replicate_zero]
  rw [convert, takeWhile_leads leads, number]

theorem leads_digits (large : 1 < b) (n : Nat) : Leads (digits b n).reverse := by
  intro d more same zero
  have last := congrArg List.head? same
  rw [digits_eq large, List.head?_reverse, List.head?_cons] at last
  by_cases none : n = 0
  · rw [none, Nat.digits_zero] at last
    cases last
  · have nonempty : Nat.digits b n ≠ [] := Nat.digits_ne_nil_iff_ne_zero.mpr none
    rw [List.getLast?_eq_getLast_of_ne_nil nonempty] at last
    have leading := Nat.getLast_digit_ne_zero b none
    exact leading ((Option.some.inj last).trans zero)

/-- Digits that do not begin with a zero are the digits of their number. -/
theorem digits_value (large : 1 < b) (small : ∀ d ∈ ds, d < b) (leads : Leads ds) :
    (digits b (value b ds.reverse)).reverse = ds := by
  have below : ∀ d ∈ ds.reverse, d < b := fun d member => small d (List.mem_reverse.mp member)
  have last : ∀ nonempty : ds.reverse ≠ [], ds.reverse.getLast nonempty ≠ 0 := by
    intro nonempty
    cases ds with
    | nil => exact absurd rfl nonempty
    | cons d more => simpa using leads d more rfl
  rw [value_eq, digits_eq large, Nat.digits_ofDigits b large _ below last, List.reverse_reverse]

/-- Digits converted to another base and back are the same digits. -/
theorem convert_convert (source : 1 < a) (target : 1 < b) (small : ∀ d ∈ ds, d < a) :
    convert b a (convert a b ds) = ds := by
  obtain ⟨count, rest, rfl, leads⟩ := exists_leads ds
  have below : ∀ d ∈ rest, d < a := fun d member => small d (List.mem_append_right _ member)
  rw [convert_replicate leads, convert_replicate (leads_digits target _), List.reverse_reverse,
    value_digits (by omega), digits_value source below leads]

theorem convert_lt (target : 1 < b) (ds : List Nat) : ∀ d ∈ convert a b ds, d < b := by
  obtain ⟨count, rest, rfl, leads⟩ := exists_leads ds
  rw [convert_replicate leads]
  intro d member
  rcases List.mem_append.mp member with leading | later
  · have zero := (List.mem_replicate.mp leading).2
    omega
  · exact digits_lt target _ d (List.mem_reverse.mp later)

end Radix

namespace Base58

def symbol (d : Nat) : Char := alphabet.getD d '1'

theorem map_toNat_ofNat {ds : List Nat} (small : ∀ d ∈ ds, d < 256) :
    (ds.map UInt8.ofNat).map UInt8.toNat = ds := by
  have same : ∀ d ∈ ds, (UInt8.toNat ∘ UInt8.ofNat) d = d :=
    fun d member => UInt8.toNat_ofNat_of_lt' (small d member)
  rw [List.map_map, List.map_congr_left same, List.map_id']

theorem bytesOf_eq (ds : List Nat) : bytesOf ds = (Radix.convert 58 256 ds).map UInt8.ofNat := by
  obtain ⟨count, rest, rfl, leads⟩ := Radix.exists_leads ds
  rw [bytesOf, Radix.convert, Radix.takeWhile_leads leads, List.map_append, List.map_replicate,
    List.map_replicate]
  rfl

theorem digitsOf_eq (bytes : Bytes) :
    digitsOf bytes = Radix.convert 256 58 (bytes.map UInt8.toNat) := by
  have zero : ((· == 0) ∘ UInt8.toNat : UInt8 → Bool) = (· == 0) := by
    funext b
    apply Bool.eq_iff_iff.mpr
    simp [← UInt8.toNat_inj]
  have leading : (bytes.takeWhile (· == 0)).map (fun _ => 0) =
      (bytes.takeWhile (· == 0)).map UInt8.toNat := by
    apply List.map_congr_left
    intro b member
    have same := List.all_eq_true.mp List.all_takeWhile b member
    rw [beq_iff_eq.mp same]
    rfl
  rw [digitsOf, Radix.convert, List.takeWhile_map, zero, leading, List.map_reverse]

theorem length_alphabet : alphabet.length = 58 := by decide

/-- A digit that is read is below the base, and has the character it was read from. -/
theorem symbol_of_digit? {c : Char} {d : Nat} (found : digit? c = some d) :
    symbol d = c ∧ d < 58 := by
  obtain ⟨small, same, -⟩ := List.findIdx?_eq_some_iff_getElem.mp found
  have size := length_alphabet
  refine ⟨?_, by omega⟩
  rw [symbol, List.getD, List.getElem?_eq_getElem small]
  exact beq_iff_eq.mp same

theorem symbols_of_values {position : Nat} {cs : List Char} {ds : List Nat}
    (read : values position cs = .ok ds) : ds.map symbol = cs ∧ ∀ d ∈ ds, d < 58 := by
  induction cs generalizing position ds with
  | nil =>
    cases read
    exact ⟨rfl, by simp⟩
  | cons c cs ih =>
    rw [values] at read
    split at read
    · cases read
    · split at read
      · cases read
      · rename_i d found
        cases rest : values (position + 1) cs with
        | error defect =>
          rw [rest] at read
          cases read
        | ok more =>
          rw [rest] at read
          cases read
          obtain ⟨same, small⟩ := ih rest
          obtain ⟨first, below⟩ := symbol_of_digit? found
          exact ⟨by rw [List.map_cons, first, same], List.forall_mem_cons.mpr ⟨below, small⟩⟩

theorem digitsOf_bytesOf {ds : List Nat} (small : ∀ d ∈ ds, d < 58) :
    digitsOf (bytesOf ds) = ds := by
  have bytes : (bytesOf ds).map UInt8.toNat = Radix.convert 58 256 ds := by
    rw [bytesOf_eq, map_toNat_ofNat (Radix.convert_lt (by decide) ds)]
  rw [digitsOf_eq, bytes, Radix.convert_convert (by decide) (by decide) small]

/-- A text that stands for bytes is the text of the bytes. -/
theorem encode_of_decode {s : String} {bytes : Bytes} (read : decode s = .ok bytes) :
    encode bytes = s := by
  rw [decode] at read
  cases digits : values 0 s.toList with
  | error defect =>
    rw [digits] at read
    cases read
  | ok ds =>
    rw [digits] at read
    cases read
    obtain ⟨same, small⟩ := symbols_of_values digits
    rw [encode, digitsOf_bytesOf small]
    show String.ofList (ds.map symbol) = s
    rw [same, String.ofList_toList]

end Base58

namespace Ledger

/-- A hash that is taken has 32 bytes, and is the text of these bytes. -/
theorem hashText_of_hashBytes {hash : String} {bytes : Bytes}
    (taken : hashBytes hash = .ok bytes) : hashText bytes = hash ∧ bytes.length = 32 := by
  unfold hashBytes at taken
  split at taken
  · cases taken
  · rename_i decoded read
    split at taken
    · rename_i size
      cases taken
      exact ⟨Base58.encode_of_decode read, size⟩
    · cases taken

end Ledger

end HeaderRelay
