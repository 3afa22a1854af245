import HeaderRelay.Proofs.Canonicity

/-
Block hashes and the bytes that they denote. A base 58 text spells bytes if both begin with as many
zeros and go on with the same number. The main statements are that a text is read as the bytes that
it spells, that all bytes are spelled by exactly one text, and that everything else is refused.
-/

set_option autoImplicit false

namespace HeaderRelay

namespace Base58

variable {cs : List Char} {ds : List Nat} {bytes : Bytes} {s : String} {position d : Nat}

/-- The number that bytes are, the most significant first. -/
def number (bytes : Bytes) : Nat := Radix.value 256 (bytes.map UInt8.toNat).reverse

/-- A text spells bytes: a first digit for each zero byte that they begin with, then the digits of
the number that the others are. Neither part may begin with one more zero. -/
inductive Spells : List Char → Bytes → Prop
  | intro (zeros : Nat) {ds : List Nat} {rest : Bytes} (small : ∀ d ∈ ds, d < 58)
      (digitsLead : Radix.Leads ds) (bytesLead : Radix.Leads (rest.map UInt8.toNat))
      (same : Radix.value 58 ds.reverse = number rest) :
      Spells (List.replicate zeros '1' ++ ds.map symbol) (List.replicate zeros 0 ++ rest)

theorem digit?_symbol (small : d < 58) :
    (symbol d).toNat ≤ 127 ∧ digit? (symbol d) = some d := by
  have all : ∀ d : Fin 58, (symbol d).toNat ≤ 127 ∧ digit? (symbol d) = some d.val := by decide
  exact all ⟨d, small⟩

theorem mem_alphabet_iff {c : Char} : c ∈ alphabet ↔ ∃ d < 58, symbol d = c := by
  have size := length_alphabet
  have symbol_eq : ∀ d (small : d < alphabet.length), symbol d = alphabet[d] := by
    intro d small
    rw [symbol, List.getD, List.getElem?_eq_getElem small]
    rfl
  constructor
  · intro member
    obtain ⟨d, small, same⟩ := List.getElem_of_mem member
    exact ⟨d, by omega, (symbol_eq d small).trans same⟩
  · rintro ⟨d, small, rfl⟩
    rw [symbol_eq d (by omega)]
    exact List.getElem_mem _

theorem values_symbols (small : ∀ d ∈ ds, d < 58) : values position (ds.map symbol) = .ok ds := by
  induction ds generalizing position with
  | nil => rfl
  | cons d ds ih =>
    obtain ⟨first, others⟩ := List.forall_mem_cons.mp small
    obtain ⟨ascii, found⟩ := digit?_symbol first
    rw [List.map_cons, values, if_neg (by omega), found, ih others]
    rfl

/-- A text is read if and only if all its characters are digits. -/
theorem exists_values_iff :
    (∃ ds, values position cs = .ok ds) ↔ ∀ c ∈ cs, c ∈ alphabet := by
  constructor
  · rintro ⟨ds, read⟩ c member
    obtain ⟨rfl, small⟩ := symbols_of_values read
    obtain ⟨d, inside, rfl⟩ := List.mem_map.mp member
    exact mem_alphabet_iff.mpr ⟨d, small d inside, rfl⟩
  · intro inside
    have spelled : ∃ ds : List Nat, (∀ d ∈ ds, d < 58) ∧ ds.map symbol = cs := by
      induction cs with
      | nil => exact ⟨[], by simp, rfl⟩
      | cons c cs ih =>
        obtain ⟨first, others⟩ := List.forall_mem_cons.mp inside
        obtain ⟨d, below, rfl⟩ := mem_alphabet_iff.mp first
        obtain ⟨ds, small, rfl⟩ := ih others
        exact ⟨d :: ds, List.forall_mem_cons.mpr ⟨below, small⟩, rfl⟩
    obtain ⟨ds, small, rfl⟩ := spelled
    exact ⟨ds, values_symbols small⟩

theorem decode_ok_iff :
    decode s = .ok bytes ↔ ∃ ds, values 0 s.toList = .ok ds ∧ bytesOf ds = bytes := by
  unfold decode
  cases values 0 s.toList with
  | error defect => simp [Except.map]
  | ok ds => simp [Except.map]

theorem map_ofNat_toNat (bytes : Bytes) : (bytes.map UInt8.toNat).map UInt8.ofNat = bytes := by
  rw [List.map_map]
  exact (List.map_congr_left fun b _ => UInt8.ofNat_toNat).trans (List.map_id' bytes)

theorem toNat_lt (bytes : Bytes) : ∀ d ∈ bytes.map UInt8.toNat, d < 256 := by
  intro d member
  obtain ⟨b, -, rfl⟩ := List.mem_map.mp member
  exact b.toNat_lt

theorem spells_bytesOf (small : ∀ d ∈ ds, d < 58) : Spells (ds.map symbol) (bytesOf ds) := by
  obtain ⟨zeros, rest, rfl, leads⟩ := Radix.exists_leads ds
  have later := @map_toNat_ofNat (Radix.digits 256 (Radix.value 58 rest.reverse)).reverse
    fun d member => Radix.digits_lt (by decide) _ d (List.mem_reverse.mp member)
  rw [bytesOf_eq, Radix.convert_replicate leads, List.map_append, List.map_append,
    List.map_replicate, List.map_replicate]
  refine .intro zeros (fun d member => small d (List.mem_append_right _ member)) leads ?_ ?_
  · rw [later]
    exact Radix.leads_digits (by decide) _
  · rw [number, later, List.reverse_reverse, Radix.value_digits (by decide)]

theorem decode_iff_spells : decode s = .ok bytes ↔ Spells s.toList bytes := by
  rw [decode_ok_iff]
  constructor
  · rintro ⟨ds, read, rfl⟩
    obtain ⟨same, small⟩ := symbols_of_values read
    rw [← same]
    exact spells_bytesOf small
  · intro spells
    generalize text : s.toList = cs at spells
    cases spells with
    | @intro zeros ds rest small digitsLead bytesLead same =>
      have all : ∀ d ∈ List.replicate zeros 0 ++ ds, d < 58 := by
        intro d member
        rcases List.mem_append.mp member with leading | later
        · rw [(List.mem_replicate.mp leading).2]
          decide
        · exact small d later
      refine ⟨List.replicate zeros 0 ++ ds, ?_, ?_⟩
      · rw [← values_symbols all, List.map_append, List.map_replicate]
        rfl
      · rw [bytesOf_eq, Radix.convert_replicate digitsLead, same, number,
          Radix.digits_value (by decide) (toNat_lt rest) bytesLead, List.map_append,
          List.map_replicate, map_ofNat_toNat]
        rfl

/-- A text spells bytes if and only if all its characters are digits. -/
theorem exists_spells_iff_alphabet :
    (∃ bytes, Spells s.toList bytes) ↔ ∀ c ∈ s.toList, c ∈ alphabet := by
  rw [← @exists_values_iff _ 0]
  constructor
  · rintro ⟨bytes, spells⟩
    obtain ⟨ds, read, -⟩ := decode_ok_iff.mp (decode_iff_spells.mpr spells)
    exact ⟨ds, read⟩
  · rintro ⟨ds, read⟩
    exact ⟨_, decode_iff_spells.mp (decode_ok_iff.mpr ⟨ds, read, rfl⟩)⟩

theorem decode_encode (bytes : Bytes) : decode (encode bytes) = .ok bytes := by
  have small : ∀ d ∈ digitsOf bytes, d < 58 := by
    rw [digitsOf_eq]
    exact Radix.convert_lt (by decide) _
  refine decode_ok_iff.mpr ⟨digitsOf bytes, ?_, ?_⟩
  · rw [encode, String.toList_ofList]
    exact values_symbols small
  · rw [bytesOf_eq, digitsOf_eq,
      Radix.convert_convert (by decide) (by decide) (toNat_lt bytes), map_ofNat_toNat]

end Base58

namespace Ledger

variable {hash : String} {bytes : Bytes}

theorem hashBytes_ok_iff :
    hashBytes hash = .ok bytes ↔ Base58.decode hash = .ok bytes ∧ bytes.length = 32 := by
  unfold hashBytes
  cases Base58.decode hash with
  | error defect => simp
  | ok decoded =>
    by_cases size : decoded.length = hashSize
    · simp only [if_pos size, Except.ok.injEq]
      constructor
      · rintro rfl
        exact ⟨rfl, size⟩
      · exact And.left
    · simp only [if_neg size, Except.ok.injEq, reduceCtorEq, false_iff, not_and]
      rintro rfl
      exact size

/-- The text of 32 bytes is the only hash that is taken for them. -/
theorem hashBytes_iff_hashText :
    hashBytes hash = .ok bytes ↔ bytes.length = 32 ∧ hashText bytes = hash := by
  constructor
  · intro taken
    exact (hashText_of_hashBytes taken).symm
  · rintro ⟨size, rfl⟩
    exact hashBytes_ok_iff.mpr ⟨Base58.decode_encode bytes, size⟩

/-- A hash that is not taken is one that cannot be read, or one of another size. -/
theorem hashBytes_error_iff :
    (∃ detail, hashBytes hash = .error ⟨.parse, detail⟩) ↔
      (∃ defect, Base58.decode hash = .error defect) ∨
        ∃ other, Base58.decode hash = .ok other ∧ other.length ≠ 32 := by
  unfold hashBytes
  cases Base58.decode hash with
  | error defect => simp
  | ok decoded =>
    by_cases size : decoded.length = 32
    · simp [hashSize, size]
    · simp [hashSize, size]

theorem decode_error_iff :
    (∃ defect, Base58.decode hash = .error defect) ↔ ∃ c ∈ hash.toList, c ∉ Base58.alphabet := by
  have read : (∃ bytes, Base58.decode hash = .ok bytes) ↔
      ∀ c ∈ hash.toList, c ∈ Base58.alphabet := by
    simp only [Base58.decode_iff_spells]
    exact Base58.exists_spells_iff_alphabet
  have other : (∃ defect, Base58.decode hash = .error defect) ↔
      ¬ ∃ bytes, Base58.decode hash = .ok bytes := by
    cases Base58.decode hash <;> simp
  rw [other, read]
  simp

/-- Hashes and sequences of 32 bytes correspond one to one. A hash is taken for the bytes that it
spells, and a text that is no hash is refused as one that cannot be read. -/
theorem hashes_correspond (hash : String) (bytes : Bytes) :
    (hashBytes hash = .ok bytes ↔ bytes.length = 32 ∧ hashText bytes = hash) ∧
    (bytes.length = 32 ↔ ∃! text, hashBytes text = .ok bytes) ∧
    (hashBytes hash = .ok bytes ↔ Base58.Spells hash.toList bytes ∧ bytes.length = 32) ∧
    ((∃ detail, hashBytes hash = .error ⟨.parse, detail⟩) ↔
      (∃ c ∈ hash.toList, c ∉ Base58.alphabet) ∨
        ∃ other, Base58.Spells hash.toList other ∧ other.length ≠ 32) := by
  refine ⟨hashBytes_iff_hashText, ?_, ?_, ?_⟩
  · constructor
    · intro size
      refine ⟨hashText bytes, hashBytes_iff_hashText.mpr ⟨size, rfl⟩, ?_⟩
      intro text taken
      exact (hashBytes_iff_hashText.mp taken).2.symm
    · rintro ⟨text, taken, -⟩
      exact (hashBytes_iff_hashText.mp taken).1
  · rw [hashBytes_ok_iff, Base58.decode_iff_spells]
  · rw [hashBytes_error_iff, decode_error_iff]
    simp only [Base58.decode_iff_spells]

end Ledger

end HeaderRelay
