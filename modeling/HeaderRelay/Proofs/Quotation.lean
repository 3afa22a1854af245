import HeaderRelay.Json.Text
import Mathlib.Data.List.Forall2

set_option autoImplicit false

namespace HeaderRelay.Json

variable {c : Char} {cs : List Char} {ps : List Piece} {gs rest : List Glyph}

def Piece.Spells : Piece → Char → Prop
  | .char d, c => d = c
  | .code n, c => n = c.toNat ∧ n < 0x20
  | .gap, _ => False

theorem hexValue?_hexDigit {n : Nat} (small : n < 16) : hexValue? (some (hexDigit n)) = some n := by
  have all : ∀ m : Fin 16, hexValue? (some (hexDigit m.val)) = some m.val := by decide
  exact all ⟨n, small⟩

theorem code?_hexDigit {n : Nat} (small : n < 0x20) :
    code? (some '0') (some '0') (some (hexDigit (n / 16))) (some (hexDigit (n % 16))) = some n := by
  have zero : hexValue? (some '0') = some 0 := rfl
  simp only [code?, zero, hexValue?_hexDigit (show n / 16 < 16 by omega),
    hexValue?_hexDigit (show n % 16 < 16 by omega)]
  congr 1
  omega

theorem pieces_plain (quote : c ≠ '"') (backslash : c ≠ '\\') (shown : ¬ c.toNat < 0x20) :
    pieces (some c :: gs) = push (.char c) (pieces gs) := by
  have notQuote : c = '"' → False := quote
  have notBackslash : c = '\\' → False := backslash
  rw [pieces.eq_6 c gs notQuote (fun _ _ _ _ _ _ => notBackslash) (fun _ _ _ => notBackslash)
    notBackslash, if_neg shown]

theorem pieces_code {n : Nat} (small : n < 0x20) :
    pieces (some '\\' :: some 'u' :: some '0' :: some '0' :: some (hexDigit (n / 16)) ::
      some (hexDigit (n % 16)) :: gs) = push (.code n) (pieces gs) := by
  rw [pieces, code?_hexDigit small]

/-- A character is written so that it is read as one piece. -/
theorem pieces_escape (c : Char) (gs : List Glyph) :
    ∃ p : Piece, p.Spells c ∧ pieces ((escape c).map some ++ gs) = push p (pieces gs) := by
  unfold escape
  by_cases quote : c = '"'
  · subst quote
    exact ⟨.char '"', rfl, rfl⟩
  by_cases backslash : c = '\\'
  · subst backslash
    exact ⟨.char '\\', rfl, rfl⟩
  by_cases line : c = '\n'
  · subst line
    exact ⟨.char '\n', rfl, rfl⟩
  by_cases back : c = '\r'
  · subst back
    exact ⟨.char '\r', rfl, rfl⟩
  by_cases tab : c = '\t'
  · subst tab
    exact ⟨.char '\t', rfl, rfl⟩
  simp only [quote, backslash, line, back, tab, if_false]
  by_cases bell : c.toNat = 8
  · refine ⟨.char (Char.ofNat 8), ?_, ?_⟩
    · exact bell ▸ c.ofNat_toNat
    · simp only [bell, if_true]
      rfl
  by_cases feed : c.toNat = 12
  · refine ⟨.char (Char.ofNat 12), ?_, ?_⟩
    · exact feed ▸ c.ofNat_toNat
    · simp only [feed, if_true]
      rfl
  by_cases hidden : c.toNat < 0x20
  · refine ⟨.code c.toNat, ⟨rfl, hidden⟩, ?_⟩
    simp only [bell, feed, hidden, if_true, if_false]
    exact pieces_code hidden
  · refine ⟨.char c, rfl, ?_⟩
    simp only [bell, feed, hidden, if_false]
    exact pieces_plain quote backslash hidden

theorem push_some {p : Piece} : push p (some (ps, rest)) = some (p :: ps, rest) := rfl

/-- A code below the halves of pairs is joined to nothing. -/
theorem join?_code {n : Nat} (small : n < 0x20) :
    join? (.code n :: ps) = (join? ps).map (Char.ofNat n :: ·) := by
  have high : isHighHalf n = false := by
    simp only [isHighHalf, Bool.and_eq_false_iff, decide_eq_false_iff_not]
    omega
  have low : isLowHalf n = false := by
    simp only [isLowHalf, Bool.and_eq_false_iff, decide_eq_false_iff_not]
    omega
  cases ps with
  | nil => simp only [join?, high, low, Bool.or_self, Bool.false_eq_true, if_false]
  | cons p ps =>
    cases p <;> simp only [join?, high, low, Bool.or_self, Bool.false_eq_true, if_false]

/-- Pieces that stand for characters one by one join to them. -/
theorem join?_of_spells (spell : List.Forall₂ Piece.Spells ps cs) : join? ps = some cs := by
  induction spell with
  | nil => rfl
  | @cons p c ps cs first others ih =>
    cases p with
    | char d =>
      obtain rfl : d = c := first
      rw [join?, ih, Option.map_some]
    | code n =>
      obtain ⟨rfl, small⟩ := first
      rw [join?_code small, ih, Option.map_some, c.ofNat_toNat]
    | gap => exact first.elim

/-- A quoted text is read as pieces that spell it, and nothing behind it is touched. -/
theorem pieces_quoted (cs : List Char) (rest : List Glyph) :
    ∃ ps, List.Forall₂ Piece.Spells ps cs ∧
      pieces ((cs.flatMap escape).map some ++ some '"' :: rest) = some (ps, rest) := by
  induction cs with
  | nil => exact ⟨[], .nil, rfl⟩
  | cons c cs ih =>
    obtain ⟨ps, others, read⟩ := ih
    obtain ⟨p, first, reads⟩ := pieces_escape c ((cs.flatMap escape).map some ++ some '"' :: rest)
    refine ⟨p :: ps, .cons first others, ?_⟩
    rw [List.flatMap_cons, List.map_append, List.append_assoc, reads, read, push_some]

end HeaderRelay.Json
