import HeaderRelay.Json.Printer
import HeaderRelay.Proofs.Encoding
import HeaderRelay.Proofs.Grammar

/-
What is written is read back. A text spells a value if it is made of the tokens of the value with
white space between them; both ways of writing a value spell it, and every spelling of a value is
the value by the grammar. The main statement is that a value whose strings can be read and whose
numbers are numbers is read back from either text.
-/

set_option autoImplicit false

namespace HeaderRelay.Json

def Blanks (gap : List Char) : Prop := ∀ c ∈ gap, isSpace (some c) = true

mutual

inductive Spells : Json → List Char → Prop
  | null : Spells .null "null".toList
  | yes : Spells (.bool true) "true".toList
  | no : Spells (.bool false) "false".toList
  | number {l : Literal} (valid : l.Valid) : Spells (.number l) l.chars
  | string (s : String) : Spells (.text s) (quote s.toList)
  | empty {gap : List Char} (blanks : Blanks gap) : Spells (.array []) ('[' :: (gap ++ [']']))
  | array {items : List Json} {cs : List Char} (spelled : SpellsItems items cs) :
      Spells (.array items) ('[' :: (cs ++ [']']))
  | nothing {gap : List Char} (blanks : Blanks gap) :
      Spells (.object []) ('\x7b' :: (gap ++ ['\x7d']))
  | object {members : List (Option String × Json)} {cs : List Char}
      (spelled : SpellsMembers members cs) : Spells (.object members) ('\x7b' :: (cs ++ ['\x7d']))

/-- A text spells one or more items with commas between them. -/
inductive SpellsItems : List Json → List Char → Prop
  | last {v : Json} {before cs after : List Char} (ahead : Blanks before) (spelled : Spells v cs)
      (behind : Blanks after) : SpellsItems [v] (before ++ (cs ++ after))
  | next {v : Json} {items : List Json} {before cs after more : List Char} (ahead : Blanks before)
      (spelled : Spells v cs) (behind : Blanks after) (others : SpellsItems items more) :
      SpellsItems (v :: items) (before ++ (cs ++ (after ++ ',' :: more)))

/-- A text spells one or more members with commas between them. -/
inductive SpellsMembers : List (Option String × Json) → List Char → Prop
  | last (name : String) {v : Json} {before between cs after : List Char} (ahead : Blanks before)
      (amid : Blanks between) (spelled : Spells v cs) (behind : Blanks after) :
      SpellsMembers [(some name, v)]
        (before ++ (quote name.toList ++ ':' :: (between ++ (cs ++ after))))
  | next (name : String) {v : Json} {members : List (Option String × Json)}
      {before between cs after more : List Char} (ahead : Blanks before) (amid : Blanks between)
      (spelled : Spells v cs) (behind : Blanks after) (others : SpellsMembers members more) :
      SpellsMembers ((some name, v) :: members)
        (before ++ (quote name.toList ++ ':' :: (between ++ (cs ++ (after ++ ',' :: more)))))

end

variable {gap cs : List Char} {v : Json}

theorem Blanks.blank (blanks : Blanks gap) : Grammar.Blank (gap.map some) := by
  intro g member
  obtain ⟨c, inside, rfl⟩ := List.mem_map.mp member
  exact blanks c inside

theorem quoted_quote (s : String) : Grammar.Quoted (some s) ((quote s.toList).map some) := by
  obtain ⟨ps, spell, read⟩ := pieces_quoted s.toList []
  obtain ⟨body, inside, same⟩ := body_of_pieces read
  obtain rfl := List.append_cancel_right same
  have quoted := Grammar.Quoted.intro inside
  rw [join?_of_spells spell, Option.map_some, String.ofList_toList] at quoted
  simpa [quote] using quoted

mutual

/-- A text that spells a value is the value by the grammar. -/
theorem Spells.value {v : Json} {cs : List Char} : Spells v cs → Grammar.Value v (cs.map some)
  | .null => .null
  | .yes => .yes
  | .no => .no
  | .number valid => .number (numberOf_chars valid)
  | .string s => .string (quoted_quote s)
  | .empty blanks => by simpa using Grammar.Value.empty blanks.blank
  | .array spelled => by simpa using Grammar.Value.array spelled.elements
  | .nothing blanks => by simpa using Grammar.Value.nothing blanks.blank
  | .object spelled => by simpa using Grammar.Value.object spelled.members

theorem SpellsItems.elements {items : List Json} {cs : List Char} :
    SpellsItems items cs → Grammar.Elements items (cs.map some)
  | .last ahead spelled behind => by
    have element := Grammar.Element.intro ahead.blank spelled.value behind.blank
    simpa using Grammar.Elements.last element
  | .next ahead spelled behind others => by
    have element := Grammar.Element.intro ahead.blank spelled.value behind.blank
    simpa using Grammar.Elements.next element others.elements

theorem SpellsMembers.members {members : List (Option String × Json)} {cs : List Char} :
    SpellsMembers members cs → Grammar.Members members (cs.map some)
  | .last name ahead amid spelled behind => by
    have element := Grammar.Element.intro amid.blank spelled.value behind.blank
    have member := Grammar.Member.intro ahead.blank (quoted_quote name) blank_nil element
    simpa using Grammar.Members.last member
  | .next name ahead amid spelled behind others => by
    have element := Grammar.Element.intro amid.blank spelled.value behind.blank
    have member := Grammar.Member.intro ahead.blank (quoted_quote name) blank_nil element
    simpa using Grammar.Members.next member others.members

end

mutual

/-- Whether the strings of a value can be read and its numbers are numbers. -/
def Writable : Json → Prop
  | .null => True
  | .bool _ => True
  | .number l => l.Valid
  | .string s => s.isSome = true
  | .array items => ItemsWritable items
  | .object members => MembersWritable members

def ItemsWritable : List Json → Prop
  | [] => True
  | v :: rest => Writable v ∧ ItemsWritable rest

def MembersWritable : List (Option String × Json) → Prop
  | [] => True
  | (name, v) :: rest => name.isSome = true ∧ Writable v ∧ MembersWritable rest

end

theorem blanks_nil : Blanks [] := by
  intro c member
  cases member

theorem blanks_space : Blanks [' '] := by
  intro c member
  rw [List.mem_singleton] at member
  rw [member]
  rfl

theorem blanks_lineBreak (level : Nat) : Blanks (lineBreak level) := by
  intro c member
  rw [lineBreak, List.mem_cons, List.mem_replicate] at member
  rcases member with rfl | ⟨-, rfl⟩ <;> rfl

mutual

theorem spells_render : ∀ v : Json, Writable v → Spells v v.render
  | .null, _ => .null
  | .bool true, _ => .yes
  | .bool false, _ => .no
  | .number l, valid => .number valid
  | .string none, readable => by cases readable
  | .string (some s), _ => .string s
  | .array [], _ => .empty blanks_nil
  | .array (v :: vs), writable => .array (spells_renderItems (v :: vs) (by simp) writable)
  | .object [], _ => .nothing blanks_nil
  | .object (m :: ms), writable => .object (spells_renderMembers (m :: ms) (by simp) writable)

theorem spells_renderItems : ∀ items : List Json, items ≠ [] → ItemsWritable items →
    SpellsItems items (renderItems items)
  | [], nonempty, _ => absurd rfl nonempty
  | [v], _, ⟨one, _⟩ => by
    have spelled := SpellsItems.last blanks_nil (spells_render v one) blanks_nil
    simpa [renderItems] using spelled
  | v :: w :: vs, _, ⟨one, others⟩ => by
    have remaining := spells_renderItems (w :: vs) (by simp) others
    have spelled := SpellsItems.next blanks_nil (spells_render v one) blanks_nil remaining
    simpa [renderItems] using spelled

theorem spells_renderMembers : ∀ members : List (Option String × Json), members ≠ [] →
    MembersWritable members → SpellsMembers members (renderMembers members)
  | [], nonempty, _ => absurd rfl nonempty
  | (none, v) :: ms, _, ⟨readable, _⟩ => by cases readable
  | [(some name, v)], _, ⟨_, one, _⟩ => by
    have spelled := SpellsMembers.last name blanks_nil blanks_nil (spells_render v one) blanks_nil
    simpa [renderMembers, quoteText] using spelled
  | (some name, v) :: m :: ms, _, ⟨_, one, others⟩ => by
    have remaining := spells_renderMembers (m :: ms) (by simp) others
    have spelled := SpellsMembers.next name blanks_nil blanks_nil (spells_render v one)
      blanks_nil remaining
    simpa [renderMembers, quoteText] using spelled

end

mutual

/-- A value over several lines spells the value, from any level of indentation. -/
theorem spells_renderLines (level : Nat) : ∀ v : Json, Writable v → Spells v (v.renderLines level)
  | .null, _ => .null
  | .bool true, _ => .yes
  | .bool false, _ => .no
  | .number l, valid => .number valid
  | .string none, readable => by cases readable
  | .string (some s), _ => .string s
  | .array [], _ => .empty blanks_nil
  | .array (v :: vs), ⟨one, others⟩ => by
    have ahead := blanks_lineBreak (level + 1)
    have spelled := spells_itemLines (level + 1) vs others ahead
      (spells_renderLines (level + 1) v one) (blanks_lineBreak level)
    simpa [renderLines] using Spells.array spelled
  | .object [], _ => .nothing blanks_nil
  | .object ((none, v) :: ms), ⟨readable, _⟩ => by cases readable
  | .object ((some name, v) :: ms), ⟨_, one, others⟩ => by
    have ahead := blanks_lineBreak (level + 1)
    have spelled := spells_memberLines (level + 1) ms others name ahead
      (spells_renderLines (level + 1) v one) (blanks_lineBreak level)
    simpa [renderLines, quoteText] using Spells.object spelled

/-- The items after one that is spelled, each on a line of its own, and the white space behind
the last of them. -/
theorem spells_itemLines (level : Nat) : ∀ items : List Json, ItemsWritable items →
    ∀ {v : Json} {before cs after : List Char}, Blanks before → Spells v cs → Blanks after →
      SpellsItems (v :: items) (before ++ (cs ++ (itemLines level items ++ after)))
  | [], _, _, _, _, _, ahead, spelled, behind => .last ahead spelled behind
  | w :: items, ⟨one, others⟩, _, _, _, _, ahead, spelled, behind => by
    have remaining := spells_itemLines level items others (blanks_lineBreak level)
      (spells_renderLines level w one) behind
    have joined := SpellsItems.next ahead spelled blanks_nil remaining
    simpa [itemLines] using joined

theorem spells_memberLines (level : Nat) : ∀ members : List (Option String × Json),
    MembersWritable members → ∀ (name : String) {v : Json} {before cs after : List Char},
      Blanks before → Spells v cs → Blanks after →
        SpellsMembers ((some name, v) :: members)
          (before ++ (quote name.toList ++ ':' :: ([' '] ++
            (cs ++ (memberLines level members ++ after)))))
  | [], _, name, _, _, _, _, ahead, spelled, behind =>
    .last name ahead blanks_space spelled behind
  | (none, v) :: ms, ⟨readable, _⟩, _, _, _, _, _, _, _, _ => by cases readable
  | (some other, w) :: ms, ⟨_, one, others⟩, name, _, _, _, _, ahead, spelled, behind => by
    have remaining := spells_memberLines level ms others other (blanks_lineBreak level)
      (spells_renderLines level w one) behind
    have joined := SpellsMembers.next name ahead blanks_space spelled blanks_nil remaining
    simpa [memberLines, quoteText] using joined

end

/-- A text that spells a value is read as the value. -/
theorem parse?_of_spells (spelled : Spells v cs) : parse? (cs.map some) = some v := by
  have element := Grammar.Element.intro blank_nil spelled.value blank_nil
  rw [List.append_nil, List.nil_append] at element
  exact parse?_iff.mpr element

theorem ofString?_toText (writable : v.Writable) : ofString? v.toText = some v := by
  have reads := parse?_of_spells (spells_render v writable)
  rw [ofString?, toText, Utf8.ofString, String.toList_ofList]
  exact reads

theorem ofString?_toLines (writable : v.Writable) : ofString? v.toLines = some v := by
  have reads := parse?_of_spells (spells_renderLines 0 v writable)
  rw [ofString?, toLines, Utf8.ofString, String.toList_ofList]
  exact reads

theorem ofBytes?_encode (s : String) : ofBytes? (Utf8.encode s) = ofString? s := by
  rw [ofBytes?, Utf8.glyphs_encode, ofString?]

end HeaderRelay.Json
