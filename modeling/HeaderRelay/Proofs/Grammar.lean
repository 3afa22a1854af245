import HeaderRelay.Proofs.Numerals
import HeaderRelay.Proofs.Quotation

/-
The grammar of JSON texts, from the pieces of a string up to a value with white space around it, and
its reader. The main statement is that the reader takes a text for a value exactly if the grammar
says that the text is the value.
-/

set_option autoImplicit false

namespace HeaderRelay.Json

namespace Grammar

def Blank (gap : List Glyph) : Prop := ∀ g ∈ gap, isSpace g = true

/-- What stands between the quotes of a string, and the pieces that it is cut into. -/
inductive Body : List Glyph → List Piece → Prop
  | nil : Body [] []
  | plain {c : Char} {gs : List Glyph} {ps : List Piece} (shown : 0x20 ≤ c.toNat)
      (unquoted : c ≠ '"') (unescaped : c ≠ '\\') (rest : Body gs ps) :
      Body (some c :: gs) (.char c :: ps)
  | short {e c : Char} {gs : List Glyph} {ps : List Piece} (named : shortEscape? e = some c)
      (rest : Body gs ps) : Body (some '\\' :: some e :: gs) (.char c :: ps)
  | code {a b c d : Glyph} {n : Nat} {gs : List Glyph} {ps : List Piece}
      (digits : code? a b c d = some n) (rest : Body gs ps) :
      Body (some '\\' :: some 'u' :: a :: b :: c :: d :: gs) (.code n :: ps)
  | gap {gs : List Glyph} {ps : List Piece} (rest : Body gs ps) : Body (none :: gs) (.gap :: ps)

/-- A string in quotes, and its text if it can be read. -/
inductive Quoted : Option String → List Glyph → Prop
  | intro {gs : List Glyph} {ps : List Piece} (body : Body gs ps) :
      Quoted ((join? ps).map String.ofList) (some '"' :: (gs ++ [some '"']))

mutual

inductive Value : Json → List Glyph → Prop
  | null : Value .null ("null".toList.map some)
  | yes : Value (.bool true) ("true".toList.map some)
  | no : Value (.bool false) ("false".toList.map some)
  | number {l : Literal} {cs : List Char} (written : NumberOf l cs) :
      Value (.number l) (cs.map some)
  | string {s : Option String} {gs : List Glyph} (quoted : Quoted s gs) : Value (.string s) gs
  | empty {gap : List Glyph} (blank : Blank gap) :
      Value (.array []) (some '[' :: (gap ++ [some ']']))
  | array {items : List Json} {gs : List Glyph} (inside : Elements items gs) :
      Value (.array items) (some '[' :: (gs ++ [some ']']))
  | nothing {gap : List Glyph} (blank : Blank gap) :
      Value (.object []) (some '\x7b' :: (gap ++ [some '\x7d']))
  | object {members : List (Option String × Json)} {gs : List Glyph}
      (inside : Members members gs) :
      Value (.object members) (some '\x7b' :: (gs ++ [some '\x7d']))

/-- A value with white space around it. -/
inductive Element : Json → List Glyph → Prop
  | intro {v : Json} {before gs after : List Glyph} (ahead : Blank before) (value : Value v gs)
      (behind : Blank after) : Element v (before ++ (gs ++ after))

/-- One or more values with commas between them. -/
inductive Elements : List Json → List Glyph → Prop
  | last {v : Json} {gs : List Glyph} (element : Element v gs) : Elements [v] gs
  | next {v : Json} {items : List Json} {gs more : List Glyph} (element : Element v gs)
      (others : Elements items more) : Elements (v :: items) (gs ++ some ',' :: more)

inductive Member : Option String × Json → List Glyph → Prop
  | intro {name : Option String} {v : Json} {before quoted after gs : List Glyph}
      (ahead : Blank before) (text : Quoted name quoted) (behind : Blank after)
      (element : Element v gs) : Member (name, v) (before ++ (quoted ++ (after ++ some ':' :: gs)))

/-- One or more members with commas between them. -/
inductive Members : List (Option String × Json) → List Glyph → Prop
  | last {m : Option String × Json} {gs : List Glyph} (member : Member m gs) : Members [m] gs
  | next {m : Option String × Json} {members : List (Option String × Json)}
      {gs more : List Glyph} (member : Member m gs) (others : Members members more) :
      Members (m :: members) (gs ++ some ',' :: more)

end

end Grammar

open Grammar

variable {gap gs rest : List Glyph} {ps : List Piece} {v : Json} {s : Option String}
  {m : Option String × Json} {ms : List (Option String × Json)} {items : List Json} {fuel : Nat}

theorem blank_nil : Blank [] := by
  intro g member
  cases member

theorem skipSpace_split (gs : List Glyph) : ∃ gap, Blank gap ∧ gs = gap ++ skipSpace gs := by
  refine ⟨gs.takeWhile isSpace, fun g member => ?_, (List.takeWhile_append_dropWhile).symm⟩
  exact List.all_eq_true.mp List.all_takeWhile g member

theorem skipSpace_append (blank : Blank gap) (gs : List Glyph) :
    skipSpace (gap ++ gs) = skipSpace gs := by
  induction gap with
  | nil => rfl
  | cons g gap ih =>
    obtain ⟨space, later⟩ := List.forall_mem_cons.mp blank
    rw [List.cons_append, skipSpace, List.dropWhile_cons_of_pos space]
    exact ih later

theorem skipSpace_cons {c : Char} (solid : isSpace (some c) = false) (gs : List Glyph) :
    skipSpace (some c :: gs) = some c :: gs := by
  rw [skipSpace, List.dropWhile_cons_of_neg]
  rw [solid]
  decide

/-- A token after white space is what comes next. -/
theorem skipSpace_token (blank : Blank gap) {c : Char} (solid : isSpace (some c) = false)
    (gs : List Glyph) : skipSpace (gap ++ some c :: gs) = some c :: gs := by
  rw [skipSpace_append blank, skipSpace_cons solid]

theorem skipSpace_skipSpace (gs : List Glyph) : skipSpace (skipSpace gs) = skipSpace gs := by
  obtain ⟨gap, blank, split⟩ := skipSpace_split gs
  have same := skipSpace_append blank (skipSpace gs)
  rw [← split] at same
  exact same.symm

theorem exists_blank_of_skipSpace (skipped : skipSpace gs = rest) :
    ∃ gap, Blank gap ∧ gs = gap ++ rest := by
  obtain ⟨gap, blank, split⟩ := skipSpace_split gs
  rw [skipped] at split
  exact ⟨gap, blank, split⟩

theorem pieces_short {e c : Char} (named : shortEscape? e = some c) (gs : List Glyph) :
    pieces (some '\\' :: some e :: gs) = push (.char c) (pieces gs) := by
  unfold shortEscape? at named
  split at named <;> cases named <;> rfl

theorem pieces_of_body (body : Body gs ps) (rest : List Glyph) :
    pieces (gs ++ some '"' :: rest) = some (ps, rest) := by
  induction body with
  | nil => rfl
  | plain shown unquoted unescaped others ih =>
    rw [List.cons_append, pieces_plain unquoted unescaped (by omega), ih]
    rfl
  | short named others ih =>
    rw [List.cons_append, List.cons_append, pieces_short named, ih]
    rfl
  | code digits others ih =>
    simp only [List.cons_append, pieces, digits, ih]
    rfl
  | gap others ih =>
    rw [List.cons_append, pieces, ih]
    rfl

theorem push_eq_some {p : Piece} {read : Option (List Piece × List Glyph)}
    (pushed : push p read = some (ps, rest)) : ∃ qs, read = some (qs, rest) ∧ ps = p :: qs := by
  cases read with
  | none => cases pushed
  | some read =>
    cases pushed
    exact ⟨_, rfl, rfl⟩

/-- What is read as a string stands in front of its closing quote. -/
theorem body_of_pieces (read : pieces gs = some (ps, rest)) :
    ∃ body, Body body ps ∧ gs = body ++ some '"' :: rest := by
  fun_induction pieces gs generalizing ps with
  | case1 => cases read
  | case2 after =>
    cases read
    exact ⟨[], .nil, rfl⟩
  | case3 a b c d after invalid => cases read
  | case4 a b c d after n digits ih =>
    obtain ⟨qs, others, rfl⟩ := push_eq_some read
    obtain ⟨body, inside, rfl⟩ := ih others
    exact ⟨_, .code digits inside, rfl⟩
  | case5 e after other unnamed => cases read
  | case6 e after other c named ih =>
    obtain ⟨qs, others, rfl⟩ := push_eq_some read
    obtain ⟨body, inside, rfl⟩ := ih others
    exact ⟨_, .short named inside, rfl⟩
  | case7 after other other' => cases read
  | case8 c after unquoted _ _ unescaped hidden => cases read
  | case9 c after unquoted _ _ unescaped shown ih =>
    obtain ⟨qs, others, rfl⟩ := push_eq_some read
    obtain ⟨body, inside, rfl⟩ := ih others
    exact ⟨_, .plain (by omega) unquoted unescaped inside, rfl⟩
  | case10 after ih =>
    obtain ⟨qs, others, rfl⟩ := push_eq_some read
    obtain ⟨body, inside, rfl⟩ := ih others
    exact ⟨_, .gap inside, rfl⟩

theorem stringBody_of_quoted (quoted : Quoted s gs) (rest : List Glyph) :
    ∃ body, gs ++ rest = some '"' :: body ∧ stringBody body = some (s, rest) := by
  obtain ⟨body⟩ := quoted
  refine ⟨_, List.cons_append, ?_⟩
  rw [List.append_assoc, List.singleton_append, stringBody, pieces_of_body body]
  rfl

theorem quoted_of_stringBody (read : stringBody gs = some (s, rest)) :
    ∃ quoted, Quoted s quoted ∧ some '"' :: gs = quoted ++ rest := by
  obtain ⟨⟨ps, after⟩, cut, same⟩ := Option.map_eq_some_iff.mp read
  cases same
  obtain ⟨body, inside, rfl⟩ := body_of_pieces cut
  refine ⟨_, .intro inside, ?_⟩
  simp

/-- Reads the name and the value of a member. -/
def member (fuel : Nat) (gs : List Glyph) : Option ((Option String × Json) × List Glyph) :=
  match skipSpace gs with
  | some '"' :: text =>
      match stringBody text with
      | none => none
      | some (name, rest) =>
          match skipSpace rest with
          | some ':' :: rest => (value fuel rest).map fun (v, after) => ((name, v), after)
          | _ => none
  | _ => none

theorem members_succ (fuel : Nat) (gs : List Glyph) :
    Json.members (fuel + 1) gs =
      match member fuel gs with
      | none => none
      | some (m, rest) =>
          match skipSpace rest with
          | some ',' :: more => (Json.members fuel more).map fun (ms, after) => (m :: ms, after)
          | some '\x7d' :: after => some ([m], after)
          | _ => none := by
  rw [Json.members]
  split
  · rename_i text opened
    split
    · rename_i unread
      have missing : member fuel gs = none := by
        simp only [member, opened, unread]
      rw [missing]
    · rename_i name rest body
      split
      · rename_i after colon
        have given : member fuel gs =
            (value fuel after).map fun (v, rest) => ((name, v), rest) := by
          simp only [member, opened, body, colon]
        rw [given]
        cases value fuel after <;> rfl
      · rename_i other
        have missing : member fuel gs = none := by
          simp only [member, opened, body]
        rw [missing]
  · rename_i other
    have missing : member fuel gs = none := by
      unfold member
      split
      · rename_i opened
        exact absurd opened (other _)
      · rfl
    rw [missing]

theorem value_skipSpace (fuel : Nat) (gs : List Glyph) :
    value fuel (skipSpace gs) = value fuel gs := by
  cases fuel with
  | zero => rfl
  | succ fuel => rw [value, value, skipSpace_skipSpace]

theorem items_skipSpace (fuel : Nat) (gs : List Glyph) :
    Json.items fuel (skipSpace gs) = Json.items fuel gs := by
  cases fuel with
  | zero => rfl
  | succ fuel => rw [Json.items, Json.items, value_skipSpace]

theorem members_skipSpace (fuel : Nat) (gs : List Glyph) :
    Json.members fuel (skipSpace gs) = Json.members fuel gs := by
  cases fuel with
  | zero => rfl
  | succ fuel => rw [members_succ, members_succ, member, member, skipSpace_skipSpace]

theorem word_sound (read : word gs = some (v, rest)) :
    ∃ text, Value v text ∧ gs = text ++ rest := by
  unfold word at read
  split at read
  · cases read
    exact ⟨_, .null, rfl⟩
  · cases read
    exact ⟨_, .yes, rfl⟩
  · cases read
    exact ⟨_, .no, rfl⟩
  · cases read

theorem scalar_sound (read : scalar gs = some (v, rest)) :
    ∃ text, Value v text ∧ gs = text ++ rest := by
  unfold scalar at read
  split at read
  · exact word_sound read
  · exact word_sound read
  · exact word_sound read
  · obtain ⟨⟨l, after⟩, number, same⟩ := Option.map_eq_some_iff.mp read
    cases same
    obtain ⟨cs, written, rfl⟩ := literal_sound number
    exact ⟨_, .number written, rfl⟩

/-- What the readers take for a value, for items and for members, with some fuel, is one. -/
structure Sound (fuel : Nat) : Prop where
  value : ∀ {gs v rest}, value fuel gs = some (v, rest) →
    ∃ gap text, Blank gap ∧ Value v text ∧ gs = gap ++ (text ++ rest)
  items : ∀ {gs items rest}, Json.items fuel gs = some (items, rest) →
    ∃ text, Elements items text ∧ gs = text ++ some ']' :: rest
  members : ∀ {gs ms rest}, Json.members fuel gs = some (ms, rest) →
    ∃ text, Members ms text ∧ gs = text ++ some '\x7d' :: rest

theorem value_sound (sound : Sound fuel) (read : value (fuel + 1) gs = some (v, rest)) :
    ∃ gap text, Blank gap ∧ Value v text ∧ gs = gap ++ (text ++ rest) := by
  obtain ⟨gap, blank, split⟩ := skipSpace_split gs
  suffices found : ∃ text, Value v text ∧ skipSpace gs = text ++ rest by
    obtain ⟨text, value, same⟩ := found
    rw [same] at split
    exact ⟨gap, text, blank, value, split⟩
  rw [value] at read
  split at read
  · rename_i text same
    obtain ⟨⟨s, after⟩, body, result⟩ := Option.map_eq_some_iff.mp read
    cases result
    obtain ⟨quoted, string, whole⟩ := quoted_of_stringBody body
    exact ⟨quoted, .string string, same.trans whole⟩
  · rename_i text same
    split at read
    · rename_i after closed
      cases read
      obtain ⟨inner, empty, rfl⟩ := exists_blank_of_skipSpace closed
      exact ⟨_, .empty empty, by simp [same]⟩
    · obtain ⟨⟨items, after⟩, inside, result⟩ := Option.map_eq_some_iff.mp read
      cases result
      rw [items_skipSpace] at inside
      obtain ⟨body, elements, rfl⟩ := sound.items inside
      exact ⟨_, .array elements, by simp [same]⟩
  · rename_i text same
    split at read
    · rename_i after closed
      cases read
      obtain ⟨inner, empty, rfl⟩ := exists_blank_of_skipSpace closed
      exact ⟨_, .nothing empty, by simp [same]⟩
    · obtain ⟨⟨ms, after⟩, inside, result⟩ := Option.map_eq_some_iff.mp read
      cases result
      rw [members_skipSpace] at inside
      obtain ⟨body, members, rfl⟩ := sound.members inside
      exact ⟨_, .object members, by simp [same]⟩
  · exact scalar_sound read

theorem element_sound {next : List Glyph} (sound : Sound fuel)
    (read : value fuel gs = some (v, rest)) (skipped : skipSpace rest = next) :
    ∃ text, Element v text ∧ gs = text ++ next := by
  obtain ⟨gap, text, blank, value, rfl⟩ := sound.value read
  obtain ⟨after, behind, rfl⟩ := exists_blank_of_skipSpace skipped
  exact ⟨_, .intro blank value behind, by simp⟩

theorem items_sound (sound : Sound fuel) (read : Json.items (fuel + 1) gs = some (items, rest)) :
    ∃ text, Elements items text ∧ gs = text ++ some ']' :: rest := by
  rw [Json.items] at read
  split at read
  · cases read
  · rename_i v after first
    split at read
    · rename_i more comma
      obtain ⟨⟨others, final⟩, further, result⟩ := Option.map_eq_some_iff.mp read
      cases result
      obtain ⟨text, element, rfl⟩ := element_sound sound first comma
      obtain ⟨text', elements, rfl⟩ := sound.items further
      exact ⟨_, .next element elements, by simp⟩
    · rename_i final closed
      cases read
      obtain ⟨text, element, rfl⟩ := element_sound sound first closed
      exact ⟨_, .last element, rfl⟩
    · cases read

theorem member_sound {next : List Glyph} (sound : Sound fuel)
    (read : member fuel gs = some (m, rest)) (skipped : skipSpace rest = next) :
    ∃ text, Member m text ∧ gs = text ++ next := by
  unfold member at read
  split at read
  · rename_i text opened
    split at read
    · cases read
    · rename_i name after body
      split at read
      · rename_i text' colon
        obtain ⟨⟨v, final⟩, reads, result⟩ := Option.map_eq_some_iff.mp read
        cases result
        obtain ⟨before, ahead, rfl⟩ := exists_blank_of_skipSpace opened
        obtain ⟨quoted, string, whole⟩ := quoted_of_stringBody body
        obtain ⟨between, behind, rfl⟩ := exists_blank_of_skipSpace colon
        obtain ⟨element, value, rfl⟩ := element_sound sound reads skipped
        refine ⟨_, .intro ahead string behind value, ?_⟩
        rw [whole]
        simp
      · cases read
  · cases read

theorem members_sound (sound : Sound fuel) (read : Json.members (fuel + 1) gs = some (ms, rest)) :
    ∃ text, Members ms text ∧ gs = text ++ some '\x7d' :: rest := by
  rw [members_succ] at read
  split at read
  · cases read
  · rename_i m after first
    split at read
    · rename_i more comma
      obtain ⟨⟨others, final⟩, further, result⟩ := Option.map_eq_some_iff.mp read
      cases result
      obtain ⟨text, member, rfl⟩ := member_sound sound first comma
      obtain ⟨text', members, rfl⟩ := sound.members further
      exact ⟨_, .next member members, by simp⟩
    · rename_i final closed
      cases read
      obtain ⟨text, member, rfl⟩ := member_sound sound first closed
      exact ⟨_, .last member, rfl⟩
    · cases read

theorem sound (fuel : Nat) : Sound fuel := by
  induction fuel with
  | zero => exact ⟨nofun, nofun, nofun⟩
  | succ fuel ih => exact ⟨value_sound ih, items_sound ih, members_sound ih⟩

theorem ends_of_isSpace {c : Char} (space : isSpace (some c) = true) : Ends (some c :: gs) := by
  unfold isSpace at space
  split at space
  case h_5 => cases space
  all_goals
    rename_i same
    cases same
    exact ends_cons rfl (by decide) rfl

/-- What follows white space, or nothing of it, ends a number if it would by itself. -/
theorem ends_append (blank : Blank gap) (ends : Ends gs) : Ends (gap ++ gs) := by
  cases gap with
  | nil => exact ends
  | cons g gap =>
    have space := blank g List.mem_cons_self
    cases g with
    | none => cases space
    | some c => exact ends_of_isSpace space

/-- A character with which a value may begin. -/
structure Opens (c : Char) : Prop where
  solid : isSpace (some c) = false
  unclosed : c ≠ ']'

theorem opens_of_isDigit {c : Char} (digit : Decimal.isDigit c = true) : Opens c := by
  constructor
  · unfold isSpace
    split
    all_goals first | (rename_i same; cases same; cases digit) | rfl
  · rintro rfl
    cases digit

theorem number_opens {l : Literal} {cs : List Char} (written : NumberOf l cs) :
    ∃ c more, cs = c :: more ∧ (c = '-' ∨ Decimal.isDigit c = true) := by
  obtain ⟨valid, exponent⟩ := written
  obtain ⟨negative, whole, fraction, exponent⟩ := l
  cases negative with
  | true => exact ⟨'-', _, rfl, .inl rfl⟩
  | false =>
    cases whole with
    | nil => exact absurd rfl valid.whole.1
    | cons d whole => exact ⟨d, _, rfl, .inr (valid.whole.2 d List.mem_cons_self)⟩

theorem Grammar.Value.opens (value : Value v gs) : ∃ c more, gs = some c :: more ∧ Opens c := by
  cases value with
  | null => exact ⟨'n', _, rfl, rfl, by decide⟩
  | yes => exact ⟨'t', _, rfl, rfl, by decide⟩
  | no => exact ⟨'f', _, rfl, rfl, by decide⟩
  | number written =>
    obtain ⟨c, more, rfl, rfl | digit⟩ := number_opens written
    · exact ⟨'-', _, rfl, rfl, by decide⟩
    · exact ⟨c, _, rfl, opens_of_isDigit digit⟩
  | string quoted =>
    obtain ⟨body⟩ := quoted
    exact ⟨'"', _, rfl, rfl, by decide⟩
  | empty blank => exact ⟨'[', _, rfl, rfl, by decide⟩
  | array inside => exact ⟨'[', _, rfl, rfl, by decide⟩
  | nothing blank => exact ⟨'\x7b', _, rfl, rfl, by decide⟩
  | object inside => exact ⟨'\x7b', _, rfl, rfl, by decide⟩

theorem Grammar.Value.length_pos (value : Value v gs) : 0 < gs.length := by
  obtain ⟨c, more, rfl, -⟩ := value.opens
  exact Nat.succ_pos _

theorem Grammar.Element.length_pos (element : Element v gs) : 0 < gs.length := by
  obtain ⟨ahead, value, behind⟩ := element
  have positive := value.length_pos
  rw [List.length_append, List.length_append]
  omega

theorem Grammar.Value.skipSpace_eq (value : Value v gs) (blank : Blank gap) (rest : List Glyph) :
    skipSpace (gap ++ (gs ++ rest)) = gs ++ rest := by
  obtain ⟨c, more, rfl, opens⟩ := value.opens
  exact skipSpace_token blank opens.solid _

theorem Grammar.Element.skipSpace_ne (element : Element v gs) (rest after : List Glyph) :
    skipSpace (gs ++ rest) ≠ some ']' :: after := by
  obtain ⟨ahead, value, behind⟩ := element
  obtain ⟨c, more, rfl, opens⟩ := value.opens
  rw [List.append_assoc, List.append_assoc, List.cons_append, skipSpace_token ahead opens.solid]
  intro same
  apply opens.unclosed
  simpa using (List.cons.inj same).1

theorem Grammar.Member.length_pos (member : Member m gs) : 0 < gs.length := by
  obtain ⟨ahead, text, behind, element⟩ := member
  simp only [List.length_append, List.length_cons]
  omega

theorem Grammar.Elements.skipSpace_ne (elements : Elements items gs) (rest after : List Glyph) :
    skipSpace (gs ++ rest) ≠ some ']' :: after := by
  cases elements with
  | last element => exact element.skipSpace_ne rest after
  | next element others =>
    rw [List.append_assoc]
    exact element.skipSpace_ne _ after

theorem Grammar.Member.skipSpace_ne (member : Member m gs) (rest after : List Glyph) :
    skipSpace (gs ++ rest) ≠ some '\x7d' :: after := by
  obtain ⟨ahead, text, behind, element⟩ := member
  obtain ⟨body⟩ := text
  rw [List.append_assoc, List.append_assoc, List.cons_append, skipSpace_token ahead rfl]
  rintro ⟨⟩

theorem Grammar.Members.skipSpace_ne (members : Members ms gs) (rest after : List Glyph) :
    skipSpace (gs ++ rest) ≠ some '\x7d' :: after := by
  cases members with
  | last member => exact member.skipSpace_ne rest after
  | next member others =>
    rw [List.append_assoc]
    exact member.skipSpace_ne _ after

theorem value_number {l : Literal} {cs : List Char} (written : NumberOf l cs) (ends : Ends rest)
    (start : skipSpace gs = cs.map some ++ rest) :
    value (fuel + 1) gs = some (.number l, rest) := by
  have reads := literal_append written ends
  obtain ⟨c, more, rfl, opens⟩ := number_opens written
  rw [List.map_cons, List.cons_append] at reads start
  have other : c ≠ '"' ∧ c ≠ '[' ∧ c ≠ '\x7b' ∧ c ≠ 'n' ∧ c ≠ 't' ∧ c ≠ 'f' := by
    refine ⟨?_, ?_, ?_, ?_, ?_, ?_⟩ <;>
    · rintro rfl
      rcases opens with impossible | impossible <;> revert impossible <;> decide
  obtain ⟨quote, bracket, brace, n, t, f⟩ := other
  rw [value, start]
  have plain : scalar (some c :: (more.map some ++ rest)) = some (.number l, rest) := by
    unfold scalar
    split <;> simp_all
  split <;> simp_all

theorem value_array_nil (body : List Glyph) (closed : skipSpace body = some ']' :: rest)
    (start : skipSpace gs = some '[' :: body) : value (fuel + 1) gs = some (.array [], rest) := by
  simp only [value, start, closed]

theorem value_object_nil (body : List Glyph) (closed : skipSpace body = some '\x7d' :: rest)
    (start : skipSpace gs = some '\x7b' :: body) :
    value (fuel + 1) gs = some (.object [], rest) := by
  simp only [value, start, closed]

theorem value_array (body : List Glyph) (unclosed : ∀ after, skipSpace body ≠ some ']' :: after)
    (start : skipSpace gs = some '[' :: body)
    (inner : Json.items fuel body = some (items, rest)) :
    value (fuel + 1) gs = some (.array items, rest) := by
  -- What is inside does not end at once, by `unclosed`.
  simp only [value, start]
  rw [items_skipSpace, inner]
  rfl

theorem value_object (body : List Glyph)
    (unclosed : ∀ after, skipSpace body ≠ some '\x7d' :: after)
    (start : skipSpace gs = some '\x7b' :: body)
    (inner : Json.members fuel body = some (ms, rest)) :
    value (fuel + 1) gs = some (.object ms, rest) := by
  simp only [value, start]
  rw [members_skipSpace, inner]
  rfl

theorem items_last (read : value fuel gs = some (v, gap ++ some ']' :: rest))
    (blank : Blank gap) : Json.items (fuel + 1) gs = some ([v], rest) := by
  rw [Json.items, read]
  dsimp only
  rw [skipSpace_token blank rfl]
  rfl

theorem items_next {more : List Glyph} (read : value fuel gs = some (v, gap ++ some ',' :: more))
    (blank : Blank gap) (others : Json.items fuel more = some (items, rest)) :
    Json.items (fuel + 1) gs = some (v :: items, rest) := by
  rw [Json.items, read]
  dsimp only
  rw [skipSpace_token blank rfl]
  show (Json.items fuel more).map _ = _
  rw [others]
  rfl

theorem members_last (read : member fuel gs = some (m, gap ++ some '\x7d' :: rest))
    (blank : Blank gap) : Json.members (fuel + 1) gs = some ([m], rest) := by
  rw [members_succ, read]
  dsimp only
  rw [skipSpace_token blank rfl]
  rfl

theorem members_next {more : List Glyph} (read : member fuel gs = some (m, gap ++ some ',' :: more))
    (blank : Blank gap) (others : Json.members fuel more = some (ms, rest)) :
    Json.members (fuel + 1) gs = some (m :: ms, rest) := by
  rw [members_succ, read]
  dsimp only
  rw [skipSpace_token blank rfl]
  show (Json.members fuel more).map _ = _
  rw [others]
  rfl

theorem member_intro {before quoted between text : List Glyph} {name : Option String}
    (ahead : Blank before) (string : Quoted name quoted) (behind : Blank between)
    (read : value fuel text = some (v, rest)) :
    member fuel (before ++ (quoted ++ (between ++ some ':' :: text))) = some ((name, v), rest) := by
  obtain ⟨body, opened, reads⟩ := stringBody_of_quoted string (between ++ some ':' :: text)
  have start : skipSpace (before ++ (quoted ++ (between ++ some ':' :: text))) =
      some '"' :: body := by
    rw [opened, skipSpace_token ahead rfl]
  have colon := skipSpace_token behind (c := ':') rfl text
  simp only [member, start, reads, colon, read]
  rfl

/-- Twice the length of a value is more than no fuel. -/
theorem enough_succ (positive : 0 < gs.length) (enough : 2 * gs.length ≤ fuel + 1) :
    ∃ less, fuel = less + 1 :=
  Nat.exists_eq_add_one.mpr (by omega)

theorem ends_bracket (rest : List Glyph) : Ends (some ']' :: rest) :=
  ends_cons rfl (by decide) rfl

theorem ends_brace (rest : List Glyph) : Ends (some '\x7d' :: rest) :=
  ends_cons rfl (by decide) rfl

theorem ends_comma (rest : List Glyph) : Ends (some ',' :: rest) := ends_cons rfl (by decide) rfl

mutual

/-- A value is read where it stands. The fuel suffices for twice the length, since each level of
nesting takes two steps and two characters. -/
theorem value_complete {v : Json} {gs rest : List Glyph} (fuel : Nat) :
    Value v gs → Ends rest → 2 * gs.length ≤ fuel + 1 → value fuel (gs ++ rest) = some (v, rest)
  | .null, _, enough => by
    obtain ⟨fuel, rfl⟩ := enough_succ (by decide) enough
    rfl
  | .yes, _, enough => by
    obtain ⟨fuel, rfl⟩ := enough_succ (by decide) enough
    rfl
  | .no, _, enough => by
    obtain ⟨fuel, rfl⟩ := enough_succ (by decide) enough
    rfl
  | .number written, ends, enough => by
    obtain ⟨fuel, rfl⟩ := enough_succ (Value.number written).length_pos enough
    exact value_number written ends ((Value.number written).skipSpace_eq blank_nil rest)
  | .string quoted, _, enough => by
    obtain ⟨fuel, rfl⟩ := enough_succ (Value.string quoted).length_pos enough
    obtain ⟨body, opened, read⟩ := stringBody_of_quoted quoted rest
    rw [opened, value, skipSpace_cons rfl]
    show (stringBody body).map _ = _
    rw [read]
    rfl
  | .empty blank, _, enough => by
    obtain ⟨fuel, rfl⟩ := enough_succ (Value.empty blank).length_pos enough
    rw [List.cons_append, List.append_assoc]
    exact value_array_nil _ (skipSpace_token blank rfl rest) (skipSpace_cons rfl _)
  | .array inside, _, enough => by
    obtain ⟨fuel, rfl⟩ := enough_succ (Value.array inside).length_pos enough
    rw [List.cons_append, List.append_assoc]
    apply value_array _ (fun after => inside.skipSpace_ne _ after) (skipSpace_cons rfl _)
    apply elements_complete fuel inside
    simp only [List.length_cons, List.length_append, List.length_nil] at enough
    omega
  | .nothing blank, _, enough => by
    obtain ⟨fuel, rfl⟩ := enough_succ (Value.nothing blank).length_pos enough
    rw [List.cons_append, List.append_assoc]
    exact value_object_nil _ (skipSpace_token blank rfl rest) (skipSpace_cons rfl _)
  | .object inside, _, enough => by
    obtain ⟨fuel, rfl⟩ := enough_succ (Value.object inside).length_pos enough
    rw [List.cons_append, List.append_assoc]
    apply value_object _ (fun after => inside.skipSpace_ne _ after) (skipSpace_cons rfl _)
    apply members_complete fuel inside
    simp only [List.length_cons, List.length_append, List.length_nil] at enough
    omega

theorem element_complete {v : Json} {gs rest : List Glyph} (fuel : Nat) :
    Element v gs → Ends rest → 2 * gs.length ≤ fuel + 1 →
      ∃ gap, Blank gap ∧ value fuel (gs ++ rest) = some (v, gap ++ rest)
  | .intro ahead inner behind, ends, enough => by
    rw [List.length_append, List.length_append] at enough
    have read := value_complete fuel inner (ends_append behind ends) (by omega)
    refine ⟨_, behind, ?_⟩
    rw [List.append_assoc, List.append_assoc, ← value_skipSpace, inner.skipSpace_eq ahead, read]

theorem elements_complete {items : List Json} {gs rest : List Glyph} (fuel : Nat) :
    Elements items gs → 2 * gs.length ≤ fuel →
      Json.items fuel (gs ++ some ']' :: rest) = some (items, rest)
  | .last element, enough => by
    have positive := element.length_pos
    obtain ⟨fuel, rfl⟩ := Nat.exists_eq_add_one.mpr (by omega : 0 < fuel)
    obtain ⟨gap, blank, read⟩ := element_complete fuel element (ends_bracket rest) enough
    exact items_last read blank
  | .next element others, enough => by
    have positive := element.length_pos
    rw [List.length_append, List.length_cons] at enough
    obtain ⟨fuel, rfl⟩ := Nat.exists_eq_add_one.mpr (by omega : 0 < fuel)
    obtain ⟨gap, blank, read⟩ := element_complete fuel element (ends_comma _) (by omega)
    rw [List.append_assoc]
    exact items_next read blank (elements_complete fuel others (by omega))

theorem member_complete {m : Option String × Json} {gs rest : List Glyph} (fuel : Nat) :
    Member m gs → Ends rest → 2 * gs.length ≤ fuel + 1 →
      ∃ gap, Blank gap ∧ member fuel (gs ++ rest) = some (m, gap ++ rest)
  | .intro ahead text behind element, ends, enough => by
    simp only [List.length_append, List.length_cons] at enough
    obtain ⟨gap, blank, read⟩ := element_complete fuel element ends (by omega)
    refine ⟨gap, blank, ?_⟩
    simp only [List.append_assoc, List.cons_append]
    exact member_intro ahead text behind read

theorem members_complete {ms : List (Option String × Json)} {gs rest : List Glyph} (fuel : Nat) :
    Members ms gs → 2 * gs.length ≤ fuel →
      Json.members fuel (gs ++ some '\x7d' :: rest) = some (ms, rest)
  | .last member, enough => by
    have positive := member.length_pos
    obtain ⟨fuel, rfl⟩ := Nat.exists_eq_add_one.mpr (by omega : 0 < fuel)
    obtain ⟨gap, blank, read⟩ := member_complete fuel member (ends_brace rest) enough
    exact members_last read blank
  | .next member others, enough => by
    have positive := member.length_pos
    rw [List.length_append, List.length_cons] at enough
    obtain ⟨fuel, rfl⟩ := Nat.exists_eq_add_one.mpr (by omega : 0 < fuel)
    obtain ⟨gap, blank, read⟩ := member_complete fuel member (ends_comma _) (by omega)
    rw [List.append_assoc]
    exact members_next read blank (members_complete fuel others (by omega))

end

/-- The reader takes a text for a value exactly if it is the value, with white space around. -/
theorem parse?_iff : parse? gs = some v ↔ Element v gs := by
  constructor
  · intro parsed
    unfold parse? at parsed
    split at parsed
    · rename_i w rest read
      split at parsed
      · rename_i ended
        cases parsed
        obtain ⟨text, element, rfl⟩ := element_sound (sound _) read ended
        rw [List.append_nil]
        exact element
      · cases parsed
    · cases parsed
  · intro element
    obtain ⟨gap, blank, reads⟩ := element_complete (fuelFor gs) element ends_nil (by
      rw [fuelFor]
      omega)
    rw [List.append_nil, List.append_nil] at reads
    have ended : skipSpace gap = [] := by
      rw [← List.append_nil gap, skipSpace_append blank]
      rfl
    rw [parse?, read, reads]
    simp only [ended, if_true]

/-- A text is read as one value at most. -/
theorem Grammar.Element.unique {w : Json} (element : Element v gs) (element' : Element w gs) :
    v = w := by
  have read := parse?_iff.mpr element
  have read' := parse?_iff.mpr element'
  exact Option.some.inj (read.symm.trans read')

end HeaderRelay.Json
