import HeaderRelay.Json.View
import HeaderRelay.Proofs.Numerals
import Mathlib.Data.List.Forall2

set_option autoImplicit false

namespace HeaderRelay

namespace Literal

variable {l : Literal} {n : Nat}

/-- A whole number of 64 bits, written as nothing but digits. -/
structure IsNatural (l : Literal) (n : Nat) : Prop where
  unsigned : l.negative = false
  whole : l.fraction = none
  unscaled : l.exponent = none
  value : Decimal.value l.whole = n
  fits : n < 2 ^ 64

theorem Scan.value_le_of_pushWhole {s : Scan} {c : Char} (room : (s.pushWhole c).full = false) :
    s.full = false ∧ s.pushWhole c = ⟨s.significand * 10 + Decimal.digitValue c, s.dropped, false⟩ ∧
      s.significand * 10 + Decimal.digitValue c ≤ Binary64.greatestWord := by
  unfold pushWhole at room ⊢
  dsimp only at room ⊢
  split at room
  · cases room
  · rename_i taken
    rw [if_neg taken]
    simp only [Bool.or_eq_true, decide_eq_true_eq, not_or, Bool.not_eq_true] at taken
    exact ⟨taken.1, rfl, by omega⟩

/-- Digits of which none was dropped are all taken. -/
theorem scanWhole_of_room {ds : List Char} (room : (scanWhole ds).full = false) :
    Decimal.value ds ≤ Binary64.greatestWord ∧ (scanWhole ds).significand = Decimal.value ds := by
  induction ds using List.reverseRecOn with
  | nil => exact ⟨Nat.zero_le _, rfl⟩
  | append_singleton ds c ih =>
    rw [scanWhole, List.foldl_append, List.foldl_cons, List.foldl_nil] at room ⊢
    obtain ⟨before, pushed, fits⟩ := Scan.value_le_of_pushWhole room
    obtain ⟨-, same⟩ := ih before
    rw [scanWhole] at same
    rw [Decimal.value_append_singleton, pushed, ← same]
    exact ⟨fits, rfl⟩

theorem natural?_eq_some : l.natural? = some n ↔ l.numeral? = some (.natural n) := by
  unfold natural?
  split
  · rename_i m read
    simp [read]
  · rename_i other
    constructor
    · rintro ⟨⟩
    · intro read
      exact absurd read (other n)

/-- A number with a point or an exponent is a floating-point number. -/
theorem not_natural_of_map {x : Option Binary64} : x.map Numeral.real ≠ some (.natural n) := by
  cases x <;> rintro ⟨⟩

/-- A literal stands for a natural number if it is written as one. -/
theorem natural?_iff : l.natural? = some n ↔ l.IsNatural n := by
  have greatest : Binary64.greatestWord = 2 ^ 64 - 1 := rfl
  obtain ⟨negative, whole, fraction, exponent⟩ := l
  rw [natural?_eq_some]
  constructor
  · intro read
    cases fraction with
    | some ds => exact absurd read not_natural_of_map
    | none =>
      unfold numeral? at read
      dsimp only at read
      split at read
      · exact absurd read not_natural_of_map
      · rename_i plain
        rw [not_or, Bool.not_eq_true, Option.not_isSome_iff_eq_none] at plain
        obtain ⟨room, rfl⟩ := plain
        obtain ⟨fits, same⟩ := scanWhole_of_room room
        split at read
        · rename_i unsigned
          cases read
          exact ⟨unsigned, rfl, rfl, same.symm, by omega⟩
        · split at read <;> cases read
  · intro written
    obtain ⟨rfl, rfl, rfl, value, fits⟩ := written
    obtain rfl : Decimal.value whole = n := value
    have scan := scanWhole_eq (show Decimal.value whole ≤ Binary64.greatestWord by omega)
    simp only [numeral?, scan, Option.isSome_none, Bool.false_eq_true, or_self, if_false, if_true]

end Literal

namespace Form

variable {α : Type} {form : Form α}

/-- A record has values for the names of fields, the first of which stands at an index in a list. -/
def Gives (form : Form α) : Nat → List String → List α → Prop
  | _, [], [] => True
  | index, name :: names, a :: values =>
      form.field index name = .given a ∧ Gives form (index + 1) names values
  | _, _, _ => False

end Form

namespace Slot

variable {α β : Type} {slot : Slot α} {read : α → Option β} {b : β}

/-- The value of a field, if one is written. -/
def values : Slot α → List α
  | .given a => [a]
  | _ => []

theorem required_eq_some :
    slot.required read = some b ↔ ∃ a, slot = .given a ∧ read a = some b := by
  cases slot <;> simp [required]

end Slot

namespace Json

variable {α : Type} {ms : List (Option String × Json)} {named : List (String × Json)}
  {fields : List String} {values items : List Json} {v : Json} {name s : String} {n index : Nat}
  {form : Form Json} {a : α}

/-- The values that are written under a name, in their order. -/
def told (ms : List (Option String × Json)) (name : String) : List Json :=
  (ms.filter fun m => m.1 = some name).map Prod.snd

def Named (ms : List (Option String × Json)) : Prop := ∀ m ∈ ms, m.1.isSome = true

/-- A record is written with a value for each field: each once under its name in an object whose
names can be read, or all of them as an array. -/
inductive Writes (fields : List String) : Json → List Json → Prop
  | named {ms : List (Option String × Json)} {values : List Json} (readable : Named ms)
      (once : List.Forall₂ (fun name v => told ms name = [v]) fields values) :
      Writes fields (.object ms) values
  | listed {values : List Json} (count : values.length = fields.length) :
      Writes fields (.array values) values

inductive Nullable (P : Json → α → Prop) : Json → Option α → Prop
  | null : Nullable P .null none
  | given {v : Json} {a : α} (value : P v a) : Nullable P v (some a)

/-- A value or null, written once at most. -/
inductive Given (P : Json → α → Prop) : List Json → Option α → Prop
  | missing : Given P [] none
  | written {v : Json} {x : Option α} (value : Nullable P v x) : Given P [v] x

theorem text?_iff : v.text? = some s ↔ v = .text s := by
  cases v <;> simp [text?, text]

theorem natural?_iff : v.natural? = some n ↔ ∃ l : Literal, v = .number l ∧ l.IsNatural n := by
  cases v <;> simp [natural?, Literal.natural?_iff]

/-- The names of an object can be read if they all can. -/
theorem exists_named?_iff : (∃ named, named? ms = some named) ↔ Named ms := by
  induction ms with
  | nil => simp [named?, Named]
  | cons m ms ih =>
    obtain ⟨name, v⟩ := m
    rw [Named, List.forall_mem_cons, ← Named, ← ih]
    cases name <;> simp [named?]

theorem under_of_named? (read : named? ms = some named) (name : String) :
    Form.under named name = told ms name := by
  induction ms generalizing named with
  | nil =>
    cases read
    rfl
  | cons m ms ih =>
    obtain ⟨key, v⟩ := m
    cases key with
    | none => cases read
    | some key =>
      obtain ⟨others, further, rfl⟩ := Option.map_eq_some_iff.mp read
      have rest := ih further
      rw [Form.under] at rest
      by_cases same : key = name <;> simp [Form.under, told, same, rest]

theorem field_named (read : named? ms = some named) (index : Nat) (name : String) :
    (Form.named named).field index name =
      match told ms name with
      | [] => .unnamed
      | v :: _ => .given v := by
  rw [Form.field, under_of_named? read]
  cases told ms name <;> rfl

theorem field_named_given (read : named? ms = some named) :
    (Form.named named).field index name = .given v ↔ ∃ rest, told ms name = v :: rest := by
  rw [field_named read]
  cases told ms name <;> simp

theorem field_listed_given : (Form.listed items).field index name = .given v ↔
    items.drop index = v :: items.drop (index + 1) := by
  rw [Form.field]
  cases found : items[index]? with
  | none =>
    rw [List.getElem?_eq_none_iff] at found
    simp [List.drop_eq_nil_of_le found]
  | some w =>
    obtain ⟨short, rfl⟩ := List.getElem?_eq_some_iff.mp found
    rw [List.drop_eq_getElem_cons short]
    simp only [Slot.given.injEq, List.cons.injEq, and_true]

/-- One value is written if one is and no other. -/
theorem told_singleton_iff :
    told ms name = [v] ↔ (told ms name).length ≤ 1 ∧ ∃ rest, told ms name = v :: rest := by
  cases told ms name with
  | nil => simp
  | cons w rest => cases rest <;> simp

theorem gives_named_iff (read : named? ms = some named) :
    (Form.named named).Gives index fields values ↔
      List.Forall₂ (fun name v => ∃ rest, told ms name = v :: rest) fields values := by
  induction fields generalizing index values with
  | nil => cases values <;> simp [Form.Gives]
  | cons name fields ih =>
    cases values with
    | nil => simp [Form.Gives]
    | cons v values => rw [Form.Gives, ih, field_named_given read, List.forall₂_cons]

theorem gives_listed_iff : (Form.listed items).Gives index fields values ↔
    values.length = fields.length ∧ ∃ rest, items.drop index = values ++ rest := by
  induction fields generalizing index values with
  | nil => cases values <;> simp [Form.Gives]
  | cons name fields ih =>
    cases values with
    | nil => simp [Form.Gives]
    | cons v values =>
      rw [Form.Gives, ih, field_listed_given]
      constructor
      · rintro ⟨first, count, rest, others⟩
        refine ⟨by simp [count], rest, ?_⟩
        rw [first, others]
        rfl
      · rintro ⟨count, rest, all⟩
        have later : items.drop (index + 1) = values ++ rest := by
          rw [← List.drop_drop, all]
          rfl
        refine ⟨?_, by simpa using count, rest, later⟩
        rw [all, later]
        rfl

/-- A value is taken for a record: an object whose names can be read and that has no field twice, or
an array without an item too many. -/
inductive Formed (fields : List String) : Json → Form Json → Prop
  | named {ms : List (Option String × Json)} {named : List (String × Json)}
      (parsed : named? ms = some named) (single : ∀ name ∈ fields, (told ms name).length ≤ 1) :
      Formed fields (.object ms) (.named named)
  | listed {items : List Json} (few : items.length ≤ fields.length) :
      Formed fields (.array items) (.listed items)

theorem recordOf?_iff : v.recordOf? fields = some form ↔ Formed fields v form := by
  rw [recordOf?, Option.filter_eq_some_iff]
  constructor
  · rintro ⟨formed, admitted⟩
    cases v with
    | object ms =>
      obtain ⟨named, parsed, rfl⟩ := Option.map_eq_some_iff.mp formed
      refine .named parsed fun name field => ?_
      rw [Form.admits, List.all_eq_true] at admitted
      have single := of_decide_eq_true (admitted name field)
      rwa [under_of_named? parsed] at single
    | array items =>
      cases formed
      exact .listed (of_decide_eq_true admitted)
    | _ => cases formed
  · rintro (⟨parsed, single⟩ | few)
    · refine ⟨Option.map_eq_some_iff.mpr ⟨_, parsed, rfl⟩, List.all_eq_true.mpr fun name field => ?_⟩
      rw [under_of_named? parsed]
      exact decide_eq_true (single name field)
    · exact ⟨rfl, decide_eq_true few⟩

/-- A record is written with values exactly if its reader finds them. -/
theorem writes_iff : Writes fields v values ↔
    ∃ form, v.recordOf? fields = some form ∧ form.Gives 0 fields values := by
  simp only [recordOf?_iff]
  constructor
  · rintro (⟨readable, once⟩ | count)
    · obtain ⟨named, parsed⟩ := exists_named?_iff.mpr readable
      simp only [told_singleton_iff, List.forall₂_and_left] at once
      exact ⟨_, .named parsed once.1, (gives_named_iff parsed).mpr once.2⟩
    · exact ⟨_, .listed (Nat.le_of_eq count), gives_listed_iff.mpr ⟨count, [], by simp⟩⟩
  · rintro ⟨form, formed, gives⟩
    cases formed with
    | named parsed single =>
      have given := (gives_named_iff parsed).mp gives
      refine .named (exists_named?_iff.mp ⟨_, parsed⟩) ?_
      simp only [told_singleton_iff, List.forall₂_and_left]
      exact ⟨single, given⟩
    | listed few =>
      obtain ⟨count, rest, all⟩ := gives_listed_iff.mp gives
      -- All fields are given, so that nothing is left of the items.
      have size := congrArg List.length all
      rw [List.drop_zero, List.length_append] at size
      obtain rfl := List.eq_nil_of_length_eq_zero (by omega : rest.length = 0)
      rw [List.drop_zero, List.append_nil] at all
      rw [all]
      exact .listed count

section Optional

variable {P : Json → α → Prop} {read : Json → Option α} {slot : Slot Json} {x : Option α}

/-- A reader takes just the values with a property, and null is none of them. -/
structure Reads (read : Json → Option α) (P : Json → α → Prop) : Prop where
  iff : ∀ v a, read v = some a ↔ P v a
  null : read .null = none

theorem Reads.nullable_iff (reads : Reads read P) : optional? read v = some x ↔ Nullable P v x := by
  constructor
  · intro found
    unfold optional? at found
    split at found
    · cases found
      exact .null
    · obtain ⟨a, value, rfl⟩ := Option.map_eq_some_iff.mp found
      exact .given ((reads.iff v a).mp value)
  · intro nullable
    cases nullable with
    | null => rfl
    | given value =>
      have found := (reads.iff _ _).mpr value
      unfold optional?
      split
      · rw [reads.null] at found
        cases found
      · rw [found]
        rfl

/-- A field that may be missing anywhere is read if it is missing or has a value or null. -/
theorem Reads.defaulted_iff (reads : Reads read P) :
    slot.defaulted none (optional? read) = some x ↔ Given P slot.values x := by
  cases slot with
  | given v =>
    rw [Slot.defaulted, reads.nullable_iff]
    constructor
    · exact .written
    · rintro ⟨⟩
      assumption
  | _ =>
    show some none = some x ↔ Given P [] x
    constructor
    · rintro ⟨⟩
      exact .missing
    · rintro ⟨⟩
      rfl

/-- A field that may be missing only in an object. -/
theorem Reads.optional_iff (reads : Reads read P) :
    slot.optional (optional? read) = some x ↔ slot ≠ .beyond ∧ Given P slot.values x := by
  rw [← reads.defaulted_iff]
  cases slot <;> simp [Slot.optional, Slot.defaulted]

theorem Given.length_le {values : List Json} (given : Given P values x) : values.length ≤ 1 := by
  cases given with
  | missing => exact Nat.zero_le 1
  | written value => exact Nat.le_refl 1

theorem values_named (parsed : named? ms = some named) (single : (told ms name).length ≤ 1)
    (index : Nat) : ((Form.named named).field index name).values = told ms name := by
  rw [field_named parsed]
  cases values : told ms name with
  | nil => rfl
  | cons v rest =>
    rw [values, List.length_cons] at single
    rw [List.eq_nil_of_length_eq_zero (by omega : rest.length = 0)]
    rfl

theorem values_listed (items : List Json) (index : Nat) (name : String) :
    ((Form.listed items).field index name).values = items[index]?.toList := by
  rw [Form.field]
  cases items[index]? <;> rfl

theorem named_ne_beyond (parsed : named? ms = some named) (index : Nat) (name : String) :
    (Form.named named).field index name ≠ .beyond := by
  rw [field_named parsed]
  cases told ms name <;> simp

theorem listed_ne_beyond_iff :
    (Form.listed items).field index name ≠ .beyond ↔ index < items.length := by
  rw [Form.field]
  cases found : items[index]? with
  | none => simpa using found
  | some v => simpa using (List.getElem?_eq_some_iff.mp found).1

end Optional

mutual

/-- All strings, names and numbers in a value can be read. -/
def Legible : Json → Prop
  | .null => True
  | .bool _ => True
  | .number l => l.numeral?.isSome = true
  | .string s => s.isSome = true
  | .array items => ItemsLegible items
  | .object members => MembersLegible members

def ItemsLegible : List Json → Prop
  | [] => True
  | v :: rest => Legible v ∧ ItemsLegible rest

def MembersLegible : List (Option String × Json) → Prop
  | [] => True
  | (name, v) :: rest => name.isSome = true ∧ Legible v ∧ MembersLegible rest

end

mutual

def depth : Json → Nat
  | .array items => itemsDepth items + 1
  | .object members => membersDepth members + 1
  | _ => 0

def itemsDepth : List Json → Nat
  | [] => 0
  | v :: rest => max (depth v) (itemsDepth rest)

def membersDepth : List (Option String × Json) → Nat
  | [] => 0
  | (_, v) :: rest => max (depth v) (membersDepth rest)

end

mutual

/-- A value can be read within some levels of nesting if it is legible and has no more of them. -/
theorem isReadable_iff (room : Nat) : ∀ v : Json,
    v.isReadable room = true ↔ v.Legible ∧ v.depth ≤ room
  | .null => by simp [isReadable, Legible, depth]
  | .bool _ => by simp [isReadable, Legible, depth]
  | .number l => by simp [isReadable, Legible, depth]
  | .string s => by simp [isReadable, Legible, depth]
  | .array items => by
    cases room with
    | zero => simp [isReadable, depth]
    | succ room => rw [isReadable, areReadable_iff room items, Legible, depth, Nat.succ_le_succ_iff]
  | .object members => by
    cases room with
    | zero => simp [isReadable, depth]
    | succ room =>
      rw [isReadable, membersReadable_iff room members, Legible, depth, Nat.succ_le_succ_iff]

theorem areReadable_iff (room : Nat) : ∀ items : List Json,
    areReadable room items = true ↔ ItemsLegible items ∧ itemsDepth items ≤ room
  | [] => by simp [areReadable, ItemsLegible, itemsDepth]
  | v :: rest => by
    rw [areReadable, Bool.and_eq_true, isReadable_iff room v, areReadable_iff room rest,
      ItemsLegible, itemsDepth, Nat.max_le, and_and_and_comm]

theorem membersReadable_iff (room : Nat) : ∀ members : List (Option String × Json),
    membersReadable room members = true ↔ MembersLegible members ∧ membersDepth members ≤ room
  | [] => by simp [membersReadable, MembersLegible, membersDepth]
  | (name, v) :: rest => by
    rw [membersReadable, Bool.and_eq_true, Bool.and_eq_true, isReadable_iff room v,
      membersReadable_iff room rest, MembersLegible, membersDepth, Nat.max_le]
    constructor
    · rintro ⟨⟨readable, legible, flat⟩, others, shallow⟩
      exact ⟨⟨readable, legible, others⟩, flat, shallow⟩
    · rintro ⟨⟨readable, legible, others⟩, flat, shallow⟩
      exact ⟨⟨readable, legible, flat⟩, others, shallow⟩

end

theorem named_of_legible (legible : MembersLegible ms) : Named ms := by
  induction ms with
  | nil =>
    intro m member
    cases member
  | cons m ms ih =>
    obtain ⟨readable, -, others⟩ := legible
    exact List.forall_mem_cons.mpr ⟨readable, ih others⟩

end Json

end HeaderRelay
