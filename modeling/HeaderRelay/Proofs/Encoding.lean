import HeaderRelay.Text.Utf8

set_option autoImplicit false

namespace HeaderRelay.Utf8

variable {b : UInt8} {p : Partial} {rest : Bytes}

theorem glyphsFrom_whole {g : Glyph} (whole : first b.toNat = .inl g) :
    glyphsFrom none (b :: rest) = g :: glyphsFrom none rest := by
  simp only [glyphsFrom, whole]

theorem glyphsFrom_leading (leads : first b.toNat = .inr p) :
    glyphsFrom none (b :: rest) = glyphsFrom (some p) rest := by
  simp only [glyphsFrom, leads]

theorem glyphsFrom_last (last : p.more = 0) (low : p.low ≤ b.toNat) (high : b.toNat ≤ p.high) :
    glyphsFrom (some p) (b :: rest) =
      some (Char.ofNat (p.bits * 64 + (b.toNat - 0x80))) :: glyphsFrom none rest := by
  simp only [glyphsFrom, low, high, and_self, if_true, last]

theorem glyphsFrom_inner {more : Nat} (inner : p.more = more + 1) (low : p.low ≤ b.toNat)
    (high : b.toNat ≤ p.high) :
    glyphsFrom (some p) (b :: rest) =
      glyphsFrom (some ⟨more, 0x80, 0xBF, p.bits * 64 + (b.toNat - 0x80)⟩) rest := by
  simp only [glyphsFrom, low, high, and_self, if_true, inner]

theorem toNat_byte {n : Nat} (small : n < 256) : (UInt8.ofNat n).toNat = n := by
  rw [UInt8.toNat_ofNat']
  omega

theorem first_of_lt {n : Nat} (small : n < 0x80) : first n = .inl (some (Char.ofNat n)) := by
  simp only [first, small, if_true]

theorem first_two {n : Nat} (low : 2 ≤ n) (high : n < 32) :
    first (n + 192) = .inr ⟨0, 0x80, 0xBF, n⟩ := by
  simp only [first, show ¬ n + 192 < 0x80 by omega, show ¬ n + 192 < 0xC2 by omega,
    show n + 192 < 0xE0 by omega, if_true, if_false, Nat.add_sub_cancel]

/-- The least byte behind the first of three: a lower one would spell what two bytes can. -/
def lowOfThree (n : Nat) : Nat := if n = 0 then 0xA0 else 0x80

/-- The greatest byte behind the first of three: a higher one would spell half of a pair. -/
def highOfThree (n : Nat) : Nat := if n = 13 then 0x9F else 0xBF

theorem first_three {n : Nat} (small : n < 16) :
    first (n + 224) = .inr ⟨1, lowOfThree n, highOfThree n, n⟩ := by
  by_cases zero : n = 0
  · subst zero; rfl
  · by_cases thirteen : n = 13
    · subst thirteen; rfl
    · simp only [first, lowOfThree, highOfThree, zero, thirteen, show ¬ n + 224 < 0x80 by omega,
        show ¬ n + 224 < 0xC2 by omega, show ¬ n + 224 < 0xE0 by omega,
        show ¬ n + 224 = 0xE0 by omega, show ¬ n + 224 = 0xED by omega,
        show n + 224 < 0xF0 by omega, if_true, if_false, Nat.add_sub_cancel]

/-- The least byte behind the first of four: a lower one would spell what three bytes can. -/
def lowOfFour (n : Nat) : Nat := if n = 0 then 0x90 else 0x80

/-- The greatest byte behind the first of four: there are no characters beyond. -/
def highOfFour (n : Nat) : Nat := if n = 4 then 0x8F else 0xBF

theorem first_four {n : Nat} (small : n < 5) :
    first (n + 240) = .inr ⟨2, lowOfFour n, highOfFour n, n⟩ := by
  match n, small with
  | 0, _ => rfl
  | 1, _ => rfl
  | 2, _ => rfl
  | 3, _ => rfl
  | 4, _ => rfl

theorem toNat_follower (n : Nat) : (UInt8.ofNat (n % 64 + 128)).toNat = n % 64 + 128 :=
  toNat_byte (by omega)

variable {v : Nat}

theorem glyphsFrom_two (low : 0x80 ≤ v) (high : v < 0x800) :
    glyphsFrom none (UInt8.ofNat (v / 64 % 32 + 192) :: UInt8.ofNat (v % 64 + 128) :: rest) =
      some (Char.ofNat v) :: glyphsFrom none rest := by
  have leads : first (UInt8.ofNat (v / 64 % 32 + 192)).toNat = .inr ⟨0, 0x80, 0xBF, v / 64⟩ := by
    rw [toNat_byte (by omega), show v / 64 % 32 = v / 64 by omega]
    exact first_two (by omega) (by omega)
  have second := toNat_follower v
  rw [glyphsFrom_leading leads, glyphsFrom_last rfl (by dsimp only; omega) (by dsimp only; omega),
    second]
  dsimp only
  rw [show v / 64 * 64 + (v % 64 + 128 - 0x80) = v by omega]

theorem glyphsFrom_three (low : 0x800 ≤ v) (high : v < 0x10000)
    (valid : v < 0xD800 ∨ 0xDFFF < v) :
    glyphsFrom none (UInt8.ofNat (v / 4096 % 16 + 224) :: UInt8.ofNat (v / 64 % 64 + 128) ::
        UInt8.ofNat (v % 64 + 128) :: rest) =
      some (Char.ofNat v) :: glyphsFrom none rest := by
  have leads : first (UInt8.ofNat (v / 4096 % 16 + 224)).toNat =
      .inr ⟨1, lowOfThree (v / 4096), highOfThree (v / 4096), v / 4096⟩ := by
    rw [toNat_byte (by omega), show v / 4096 % 16 = v / 4096 by omega]
    exact first_three (by omega)
  have second := toNat_follower (v / 64)
  have third := toNat_follower v
  have above : lowOfThree (v / 4096) ≤ v / 64 % 64 + 128 := by
    unfold lowOfThree
    split <;> omega
  have below : v / 64 % 64 + 128 ≤ highOfThree (v / 4096) := by
    unfold highOfThree
    split <;> omega
  rw [glyphsFrom_leading leads, glyphsFrom_inner rfl (by rw [second]; exact above)
    (by rw [second]; exact below), glyphsFrom_last rfl (by dsimp only; omega)
    (by dsimp only; omega), second, third]
  dsimp only
  rw [show (v / 4096 * 64 + (v / 64 % 64 + 128 - 0x80)) * 64 + (v % 64 + 128 - 0x80) = v by omega]

theorem glyphsFrom_four (low : 0x10000 ≤ v) (high : v < 0x110000) :
    glyphsFrom none (UInt8.ofNat (v / 262144 % 8 + 240) :: UInt8.ofNat (v / 4096 % 64 + 128) ::
        UInt8.ofNat (v / 64 % 64 + 128) :: UInt8.ofNat (v % 64 + 128) :: rest) =
      some (Char.ofNat v) :: glyphsFrom none rest := by
  have leads : first (UInt8.ofNat (v / 262144 % 8 + 240)).toNat =
      .inr ⟨2, lowOfFour (v / 262144), highOfFour (v / 262144), v / 262144⟩ := by
    rw [toNat_byte (by omega), show v / 262144 % 8 = v / 262144 by omega]
    exact first_four (by omega)
  have second := toNat_follower (v / 4096)
  have third := toNat_follower (v / 64)
  have fourth := toNat_follower v
  have above : lowOfFour (v / 262144) ≤ v / 4096 % 64 + 128 := by
    unfold lowOfFour
    split <;> omega
  have below : v / 4096 % 64 + 128 ≤ highOfFour (v / 262144) := by
    unfold highOfFour
    split <;> omega
  rw [glyphsFrom_leading leads, glyphsFrom_inner rfl (by rw [second]; exact above)
    (by rw [second]; exact below), glyphsFrom_inner rfl (by dsimp only; omega)
    (by dsimp only; omega), glyphsFrom_last rfl (by dsimp only; omega) (by dsimp only; omega),
    second, third, fourth]
  dsimp only
  rw [show ((v / 262144 * 64 + (v / 4096 % 64 + 128 - 0x80)) * 64 +
    (v / 64 % 64 + 128 - 0x80)) * 64 + (v % 64 + 128 - 0x80) = v by omega]

theorem glyphsFrom_char (c : Char) (rest : Bytes) :
    glyphsFrom none (String.utf8EncodeChar c ++ rest) = some c :: glyphsFrom none rest := by
  have valid : c.val.toNat < 0xD800 ∨ 0xDFFF < c.val.toNat ∧ c.val.toNat < 0x110000 := c.valid
  rw [show some c = some (Char.ofNat c.val.toNat) from congrArg some c.ofNat_toNat.symm]
  simp only [String.utf8EncodeChar]
  generalize c.val.toNat = v at valid
  split
  · apply glyphsFrom_whole
    rw [toNat_byte (by omega), first_of_lt (by omega)]
  · split
    · exact glyphsFrom_two (by omega) (by omega)
    · split
      · exact glyphsFrom_three (by omega) (by omega) (by omega)
      · exact glyphsFrom_four (by omega) (by omega)

/-- The bytes of an array as they are listed one after another. -/
theorem toList_loop (bytes : ByteArray) (i : Nat) (done : Bytes) :
    ByteArray.toList.loop bytes i done = done.reverse ++ bytes.data.toList.drop i := by
  fun_induction ByteArray.toList.loop bytes i done with
  | case1 i done inside ih =>
    have within : i < bytes.data.toList.length := inside
    have here : bytes.get! i = bytes.data.toList[i] := getElem!_pos bytes.data i inside
    have cut : bytes.data.toList.drop i = bytes.get! i :: bytes.data.toList.drop (i + 1) := by
      rw [List.drop_eq_getElem_cons within, here]
    rw [ih, cut, List.reverse_cons, List.append_assoc, List.singleton_append]
  | case2 i done outside =>
    have past : bytes.data.toList.length ≤ i := Nat.le_of_not_lt outside
    rw [List.drop_eq_nil_of_le past, List.append_nil]

theorem encode_eq (s : String) : encode s = s.toList.flatMap String.utf8EncodeChar := by
  have written : s.toUTF8 = (s.toList.flatMap String.utf8EncodeChar).toByteArray := by
    rw [String.toUTF8_eq_toByteArray, ← String.utf8Encode_toList, List.utf8Encode]
  rw [encode, ByteArray.toList, toList_loop, written, List.toList_data_toByteArray,
    List.reverse_nil, List.nil_append, List.drop_zero]

/-- The bytes of a text hold its characters and no gap. -/
theorem glyphs_encode (s : String) : glyphs (encode s) = ofString s := by
  rw [encode_eq, glyphs, ofString]
  induction s.toList with
  | nil => rfl
  | cons c cs ih => rw [List.flatMap_cons, glyphsFrom_char, ih, List.map_cons]

theorem decode?_encode (s : String) : decode? (encode s) = some s := by
  rw [decode?, glyphs_encode, ofString, text?_map_some, Option.map_some, String.ofList_toList]

end HeaderRelay.Utf8
