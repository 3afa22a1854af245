import HeaderRelay.Node.Rpc
import HeaderRelay.Proofs.Grammar
import HeaderRelay.Proofs.Records
import HeaderRelay.Relay.Metrics

set_option autoImplicit false

namespace HeaderRelay

open Json (Writes Given Nullable Reads told)

variable {v : Json} {b : Block}

inductive Block.Written : Json → Block → Prop
  | intro {v : Json} {b : Block} {height timestamp : Literal}
      (record : Writes ["hash", "height", "epoch_id", "prev_hash", "next_epoch_id", "timestamp"] v
        [.text b.hash, .number height, .text b.epochId, .text b.prevHash, .text b.nextEpochId,
          .number timestamp])
      (naturalHeight : height.IsNatural b.height)
      (naturalTimestamp : timestamp.IsNatural b.timestamp) : Block.Written v b

theorem Block.ofJson?_iff : ofJson? v = some b ↔ Written v b := by
  simp only [ofJson?, Option.bind_eq_bind, Option.bind_eq_some_iff, Slot.required_eq_some,
    Json.text?_iff, Json.natural?_iff, Option.pure_def, Option.some.injEq]
  constructor
  · rintro ⟨form, record, hash, ⟨_, first, rfl⟩, height, ⟨_, second, l, rfl, natural⟩, epochId,
      ⟨_, third, rfl⟩, prevHash, ⟨_, fourth, rfl⟩, nextEpochId, ⟨_, fifth, rfl⟩, timestamp,
      ⟨_, sixth, l', rfl, natural'⟩, rfl⟩
    refine .intro (Json.writes_iff.mpr ⟨form, record, ?_⟩) natural natural'
    exact ⟨first, second, third, fourth, fifth, sixth, trivial⟩
  · rintro ⟨written, natural, natural'⟩
    obtain ⟨form, record, first, second, third, fourth, fifth, sixth, -⟩ :=
      Json.writes_iff.mp written
    exact ⟨form, record, _, ⟨_, first, rfl⟩, _, ⟨_, second, _, rfl, natural⟩, _, ⟨_, third, rfl⟩,
      _, ⟨_, fourth, rfl⟩, _, ⟨_, fifth, rfl⟩, _, ⟨_, sixth, _, rfl, natural'⟩, rfl⟩

namespace Node

variable {e : NodeError} {a : Envelope} {name body : String} {node : Endpoint} {status : Nat}

def IsText (v : Json) (s : String) : Prop := v = .text s

/-- A result is written: a record of a header. -/
inductive Header : Json → Block → Prop
  | intro {v header : Json} {b : Block} (record : Writes ["header"] v [header])
      (block : b.Written header) : Header v b

/-- A cause is written: a record of its name. -/
inductive Cause : Json → String → Prop
  | intro {v : Json} {name : String} (record : Writes ["name"] v [.text name]) : Cause v name

/-- An error is written. Each of its fields may be missing or null. -/
inductive NodeError.Written : Json → NodeError → Prop
  | named {ms : List (Option String × Json)} {e : NodeError} (readable : Json.Named ms)
      (name : Given IsText (told ms "name") e.name)
      (message : Given IsText (told ms "message") e.message)
      (cause : Given Cause (told ms "cause") e.cause) : NodeError.Written (.object ms) e
  | listed {items : List Json} {e : NodeError} (few : items.length ≤ 3)
      (name : Given IsText items[0]?.toList e.name)
      (message : Given IsText items[1]?.toList e.message)
      (cause : Given Cause items[2]?.toList e.cause) : NodeError.Written (.array items) e

/-- An answer is written. Its result and its error may be null, and missing from an object. -/
inductive Envelope.Written : Json → Envelope → Prop
  | named {ms : List (Option String × Json)} {a : Envelope} (readable : Json.Named ms)
      (result : Given Header (told ms "result") a.result)
      (error : Given NodeError.Written (told ms "error") a.error) : Envelope.Written (.object ms) a
  | listed {v w : Json} {a : Envelope} (result : Nullable Header v a.result)
      (error : Nullable NodeError.Written w a.error) : Envelope.Written (.array [v, w]) a

theorem reads_text : Reads Json.text? IsText where
  iff _ _ := Json.text?_iff
  null := rfl

theorem reads_cause : Reads NodeError.causeOfJson? Cause where
  iff v name := by
    simp only [NodeError.causeOfJson?, Option.bind_eq_bind, Option.bind_eq_some_iff,
      Slot.required_eq_some, Json.text?_iff]
    constructor
    · rintro ⟨form, record, _, first, rfl⟩
      exact .intro (Json.writes_iff.mpr ⟨form, record, first, trivial⟩)
    · rintro ⟨written⟩
      obtain ⟨form, record, first, -⟩ := Json.writes_iff.mp written
      exact ⟨form, record, _, first, rfl⟩
  null := rfl

theorem reads_header : Reads Envelope.headerOfJson? Header where
  iff v b := by
    simp only [Envelope.headerOfJson?, Option.bind_eq_bind, Option.bind_eq_some_iff,
      Slot.required_eq_some, Block.ofJson?_iff]
    constructor
    · rintro ⟨form, record, header, first, block⟩
      exact .intro (Json.writes_iff.mpr ⟨form, record, first, trivial⟩) block
    · rintro ⟨written, block⟩
      obtain ⟨form, record, first, -⟩ := Json.writes_iff.mp written
      exact ⟨form, record, _, first, block⟩
  null := rfl

theorem NodeError.ofJson?_iff : NodeError.ofJson? v = some e ↔ Written v e := by
  simp only [ofJson?, Option.bind_eq_bind, Option.bind_eq_some_iff, Json.recordOf?_iff,
    reads_text.defaulted_iff, reads_cause.defaulted_iff, Option.pure_def, Option.some.injEq]
  constructor
  · rintro ⟨form, formed, name, first, message, second, cause, third, rfl⟩
    cases formed with
    | named parsed single =>
      rw [Json.values_named parsed (single _ (by decide))] at first second third
      exact .named (Json.exists_named?_iff.mp ⟨_, parsed⟩) first second third
    | listed few =>
      rw [Json.values_listed] at first second third
      exact .listed few first second third
  · rintro (⟨readable, name, message, cause⟩ | ⟨few, name, message, cause⟩)
    · obtain ⟨named, parsed⟩ := Json.exists_named?_iff.mpr readable
      refine ⟨_, .named parsed ?_, e.name, ?_, e.message, ?_, e.cause, ?_, rfl⟩
      · exact List.forall_mem_cons.mpr ⟨name.length_le, List.forall_mem_cons.mpr
          ⟨message.length_le, List.forall_mem_singleton.mpr cause.length_le⟩⟩
      · rwa [Json.values_named parsed name.length_le]
      · rwa [Json.values_named parsed message.length_le]
      · rwa [Json.values_named parsed cause.length_le]
    · refine ⟨_, .listed few, e.name, ?_, e.message, ?_, e.cause, ?_, rfl⟩
      · rwa [Json.values_listed]
      · rwa [Json.values_listed]
      · rwa [Json.values_listed]

theorem reads_error : Reads NodeError.ofJson? NodeError.Written where
  iff _ _ := NodeError.ofJson?_iff
  null := rfl

theorem given_item_iff {α : Type} {P : Json → α → Prop} {items : List Json} {index : Nat}
    {x : Option α} (inside : index < items.length) :
    Given P items[index]?.toList x ↔ Nullable P items[index] x := by
  rw [List.getElem?_eq_getElem inside]
  constructor
  · rintro ⟨⟩
    assumption
  · exact .written

theorem Envelope.ofJson?_iff : Envelope.ofJson? v = some a ↔ Written v a := by
  simp only [ofJson?, Option.bind_eq_bind, Option.bind_eq_some_iff, Json.recordOf?_iff,
    reads_header.optional_iff, reads_error.optional_iff, Option.pure_def, Option.some.injEq]
  constructor
  · rintro ⟨form, formed, result, ⟨within, first⟩, error, ⟨within', second⟩, rfl⟩
    cases formed with
    | named parsed single =>
      rw [Json.values_named parsed (single _ (by decide))] at first second
      exact .named (Json.exists_named?_iff.mp ⟨_, parsed⟩) first second
    | listed few =>
      rw [Json.listed_ne_beyond_iff] at within within'
      rw [Json.values_listed, given_item_iff (by assumption)] at first second
      obtain ⟨v, w, rfl⟩ := List.length_eq_two.mp (Nat.le_antisymm few within')
      exact .listed first second
  · rintro (⟨readable, result, error⟩ | ⟨result, error⟩)
    · obtain ⟨named, parsed⟩ := Json.exists_named?_iff.mpr readable
      refine ⟨_, .named parsed ?_, a.result, ⟨Json.named_ne_beyond parsed _ _, ?_⟩, a.error,
        ⟨Json.named_ne_beyond parsed _ _, ?_⟩, rfl⟩
      · exact List.forall_mem_cons.mpr
          ⟨result.length_le, List.forall_mem_singleton.mpr error.length_le⟩
      · rwa [Json.values_named parsed result.length_le]
      · rwa [Json.values_named parsed error.length_le]
    · refine ⟨_, .listed (Nat.le_refl 2), a.result,
        ⟨Json.listed_ne_beyond_iff.mpr Nat.zero_lt_two, ?_⟩, a.error,
        ⟨Json.listed_ne_beyond_iff.mpr Nat.one_lt_two, ?_⟩, rfl⟩
      · rw [Json.values_listed]
        exact .written result
      · rw [Json.values_listed]
        exact .written error

def Answers (body : String) (a : Envelope) : Prop :=
  ∃ v, Json.Grammar.Element v (Utf8.ofString body) ∧ a.Written v

theorem answers_iff : Answers body a ↔ (Json.ofString? body).bind Envelope.ofJson? = some a := by
  simp only [Answers, Option.bind_eq_some_iff, Json.ofString?, Json.parse?_iff,
    Envelope.ofJson?_iff]

theorem NodeError.classify_of_cause {why : Absence} (cause : e.cause = some why.word) :
    e.classify = .ok (.absent why) := by
  cases why with
  | unknown => rw [classify, if_pos cause]
  | notSynced => rw [classify, if_neg (by rw [cause]; decide), if_pos cause]

/-- The fault of an error with another cause, or without one. -/
def NodeError.fault (e : NodeError) : Fault :=
  ⟨.unexpected, "RPC error " ++ e.name.getD "" ++ " (cause " ++ e.cause.getD "none" ++ "): " ++
    e.message.getD ""⟩

theorem NodeError.classify_of_other (other : ∀ why : Absence, e.cause ≠ some why.word) :
    e.classify = .error e.fault := by
  rw [classify, if_neg (other .unknown), if_neg (other .notSynced)]
  rfl

theorem sightingOfText_of_answers (answers : Answers body a) :
    sightingOfText body = a.classify := by
  rw [sightingOfText, answers_iff.mp answers]

theorem sightingOfText_of_unread (other : ∀ a, ¬ Answers body a) :
    sightingOfText body = .error ⟨.parse, "Invalid block response: *"⟩ := by
  have none : (Json.ofString? body).bind Envelope.ofJson? = none := by
    rw [Option.eq_none_iff_forall_ne_some]
    exact fun a read => other a (answers_iff.mpr read)
  rw [sightingOfText, none]

/-- What a body shows: a block, or that the node has none. -/
inductive Shows (body : String) : Sighting → Prop
  | found {b : Block} (answers : Answers body ⟨some b, none⟩) : Shows body (.found b)
  | absent {result : Option Block} {e : NodeError} {why : Absence}
      (answers : Answers body ⟨result, some e⟩) (cause : e.cause = some why.word) :
      Shows body (.absent why)

/-- What a body that shows nothing is a fault of. -/
inductive Fails (body : String) : Fault → Prop
  | other {result : Option Block} {e : NodeError} (answers : Answers body ⟨result, some e⟩)
      (other : ∀ why : Absence, e.cause ≠ some why.word) : Fails body e.fault
  | nothing (answers : Answers body ⟨none, none⟩) :
      Fails body ⟨.parse, "Block response has neither result nor error"⟩
  | unread (other : ∀ a, ¬ Answers body a) : Fails body ⟨.parse, "Invalid block response: *"⟩

theorem Shows.sightingOfText_eq {s : Sighting} (shows' : Shows body s) :
    sightingOfText body = .ok s := by
  cases shows' with
  | found answers => exact sightingOfText_of_answers answers
  | absent answers cause =>
    exact (sightingOfText_of_answers answers).trans (NodeError.classify_of_cause cause)

theorem Fails.sightingOfText_eq {fault : Fault} (fails : Fails body fault) :
    sightingOfText body = .error fault := by
  cases fails with
  | other answers other =>
    exact (sightingOfText_of_answers answers).trans (NodeError.classify_of_other other)
  | nothing answers => exact sightingOfText_of_answers answers
  | unread other => exact sightingOfText_of_unread other

theorem shows_or_fails (body : String) : (∃ s, Shows body s) ∨ ∃ fault, Fails body fault := by
  by_cases read : ∃ a, Answers body a
  · obtain ⟨⟨result, error⟩, answers⟩ := read
    cases error with
    | some e =>
      by_cases named : ∃ why : Absence, e.cause = some why.word
      · obtain ⟨why, cause⟩ := named
        exact .inl ⟨_, .absent answers cause⟩
      · exact .inr ⟨_, .other answers fun why cause => named ⟨why, cause⟩⟩
    | none =>
      cases result with
      | some b => exact .inl ⟨_, .found answers⟩
      | none => exact .inr ⟨_, .nothing answers⟩
  · exact .inr ⟨_, .unread fun a answers => read ⟨a, answers⟩⟩

theorem shows_iff {s : Sighting} : Shows body s ↔ sightingOfText body = .ok s := by
  constructor
  · exact Shows.sightingOfText_eq
  · intro same
    rcases shows_or_fails body with ⟨t, shown⟩ | ⟨fault, fails⟩
    · cases same.symm.trans shown.sightingOfText_eq
      exact shown
    · cases same.symm.trans fails.sightingOfText_eq

def received (status : Nat) (bytes : Bytes) : String :=
  Http.bodyText (if Http.isBodiless status then [] else bytes)

/-- The fault of a status that reports no success. -/
def statusFault (node : Endpoint) (status : Nat) (body : String) : Fault :=
  ⟨.internal, node.word ++ " node HTTP error " ++ Http.statusText status ++ ": " ++ body⟩

variable {bytes : Bytes}

theorem sighting_ok_iff {s : Sighting} :
    sighting node (.complete status bytes) = .ok s ↔ Shows (received status bytes) s := by
  rw [shows_iff, sighting, ← received]
  cases sightingOfText (received status bytes) with
  | ok t => rfl
  | error fault =>
    dsimp only
    split <;> simp

theorem sighting_of_fails {fault : Fault} (fails : Fails (received status bytes) fault) :
    sighting node (.complete status bytes) =
      .error (if Http.isSuccess status then fault
        else statusFault node status (received status bytes)) := by
  rw [sighting, ← received, fails.sightingOfText_eq]
  dsimp only
  split <;> rfl

theorem sighting_of_unread
    (unread : (Json.ofString? (received status bytes)).bind Envelope.ofJson? = none)
    (succeeded : Http.isSuccess status = true) :
    sighting node (.complete status bytes) = .error ⟨.parse, "Invalid block response: *"⟩ := by
  have fails : Fails (received status bytes) ⟨.parse, "Invalid block response: *"⟩ := by
    refine .unread fun a answers => ?_
    cases unread.symm.trans (answers_iff.mp answers)
  rw [sighting_of_fails fails, succeeded]
  rfl

theorem eq_ok_of_toOption {outcome : Except Fault Sighting} {s : Sighting}
    (found : outcome.toOption = some s) : outcome = .ok s := by
  cases outcome with
  | ok t => exact congrArg Except.ok (Option.some.inj found)
  | error fault => cases found

/-- What becomes of the answer of a node, by its status and its body. -/
structure Classified (node : Endpoint) (status : Nat) (body : String)
    (outcome : Except Fault Sighting) : Prop where
  /-- A block is found if the body is an answer with its header and without an error. -/
  found_iff : ∀ b, outcome = .ok (.found b) ↔ Answers body ⟨some b, none⟩
  /-- A node lacks a block if the body is an answer with an error of that cause, whether or not it
  also has a header. -/
  absent_iff : ∀ why : Absence, outcome = .ok (.absent why) ↔
    ∃ result e, Answers body ⟨result, some e⟩ ∧ e.cause = some why.word
  /-- Without success any other body is a fault of the status. -/
  refused : Http.isSuccess status = false → (∀ s, outcome ≠ .ok s) →
    outcome = .error (statusFault node status body)
  /-- With success an error of another cause, or without one, is unexpected. -/
  unexpected : Http.isSuccess status = true → ∀ result e, Answers body ⟨result, some e⟩ →
    (∀ why : Absence, e.cause ≠ some why.word) → outcome = .error e.fault
  /-- With success a body that is no answer, or has neither header nor error, cannot be read. -/
  unread : Http.isSuccess status = true → (∀ s, outcome ≠ .ok s) →
    (∀ result e, ¬ Answers body ⟨result, some e⟩) → ∃ detail, outcome = .error ⟨.parse, detail⟩

theorem classified (node : Endpoint) (status : Nat) (bytes : Bytes) :
    Classified node status (received status bytes) (sighting node (.complete status bytes)) where
  found_iff b := by
    rw [sighting_ok_iff]
    constructor
    · rintro ⟨answers⟩
      exact answers
    · exact .found
  absent_iff why := by
    rw [sighting_ok_iff]
    constructor
    · rintro (_ | ⟨answers, cause⟩)
      exact ⟨_, _, answers, cause⟩
    · rintro ⟨result, e, answers, cause⟩
      exact .absent answers cause
  refused failed unseen := by
    rcases shows_or_fails (received status bytes) with ⟨s, shown⟩ | ⟨fault, fails⟩
    · exact absurd (sighting_ok_iff.mpr shown) (unseen s)
    · rw [sighting_of_fails fails, failed]
      rfl
  unexpected succeeded result e answers other := by
    rw [sighting_of_fails (.other answers other), succeeded]
    rfl
  unread succeeded unseen unblamed := by
    rcases shows_or_fails (received status bytes) with ⟨s, shown⟩ | ⟨fault, fails⟩
    · exact absurd (sighting_ok_iff.mpr shown) (unseen s)
    · rw [sighting_of_fails fails, succeeded]
      cases fails with
      | other answers other => exact absurd answers (unblamed _ _)
      | nothing answers => exact ⟨_, rfl⟩
      | unread other => exact ⟨_, rfl⟩

/-- An absence is counted, for its node and its cause, and nothing else is. -/
theorem count_notes (node other : Endpoint) (why : Absence) (outcome : Except Fault Sighting) :
    Metrics.count (notes node outcome) (.nodeLacks other why) =
      if other = node ∧ outcome.toOption = some (.absent why) then 1 else 0 := by
  rcases outcome with fault | block | w
  · simp [Metrics.count, notes, Except.toOption]
  · simp [Metrics.count, notes, Except.toOption]
  · cases node <;> cases other <;> cases w <;> cases why <;> rfl

/-- A body that is an answer decides, whatever the status; any other body is a fault, and the status
decides of what. Only the two causes that are recognized are counted, once each. -/
theorem answers_decide (node : Endpoint) (status : Nat) (bytes : Bytes) :
    Classified node status (received status bytes) (sighting node (.complete status bytes)) ∧
      (∀ (status' : Nat) (bytes' : Bytes), received status' bytes' = received status bytes →
        ∀ s, sighting node (.complete status bytes) = .ok s ↔
          sighting node (.complete status' bytes') = .ok s) ∧
      ∀ (before : List Note) (other : Endpoint) (why : Absence),
        Metrics.count (before ++ notes node (sighting node (.complete status bytes)))
            (.nodeLacks other why) =
          Metrics.count before (.nodeLacks other why) +
            if other = node ∧ (sighting node (.complete status bytes)).toOption =
              some (.absent why) then 1 else 0 := by
  refine ⟨classified node status bytes, ?_, ?_⟩
  · intro status' bytes' same s
    rw [sighting_ok_iff, sighting_ok_iff, same]
  · intro before other why
    rw [Metrics.count_append, count_notes]

def unknownBlock : String :=
  "\x7b\"error\":\x7b\"cause\":\x7b\"name\":\"UNKNOWN_BLOCK\"\x7d\x7d\x7d"

theorem answers_decide_refused :
    (∃ result e, Answers (received 500 (Utf8.encode unknownBlock)) ⟨result, some e⟩ ∧
      e.cause = some "UNKNOWN_BLOCK") ∧
    sighting .primary (.complete 200 (Utf8.encode unknownBlock)) = .ok (.absent .unknown) := by
  have seen : sighting .primary (.complete 500 (Utf8.encode unknownBlock)) =
      .ok (.absent .unknown) := by
    rw [sighting_ok_iff, shows_iff]
    exact eq_ok_of_toOption (by decide +kernel)
  obtain ⟨decided, alike, -⟩ := answers_decide .primary 500 (Utf8.encode unknownBlock)
  refine ⟨(decided.absent_iff .unknown).mp seen, ?_⟩
  exact (alike 200 (Utf8.encode unknownBlock) (by decide +kernel) _).mp seen

/-- A well-formed error without a cause beside a result that is none. -/
def badResult : String := "\x7b\"result\":\x7b\x7d,\"error\":\x7b\x7d\x7d"

/-- A header beside a member whose name is half a pair of codes. -/
def halfName : String :=
  "\x7b\"\\ud800\":0,\"result\":\x7b\"header\":[\"h\",5,\"e\",\"p\",\"n\",7]\x7d\x7d"

/-- Neither the error nor the header counts in a body that is no answer as a whole. -/
theorem unread_beside_unreadable :
    (∃ v error, Json.Grammar.Element v (Utf8.ofString badResult) ∧
      v.get? "error" = some error ∧ NodeError.Written error ⟨none, none, none⟩ ∧
      sighting .primary (.complete 200 (Utf8.encode badResult)) =
        .error ⟨.parse, "Invalid block response: *"⟩) ∧
    ∃ v result, Json.Grammar.Element v (Utf8.ofString halfName) ∧ v.get? "error" = none ∧
      v.get? "result" = some result ∧ Header result ⟨"h", 5, "e", "p", "n", 7⟩ ∧
      sighting .primary (.complete 200 (Utf8.encode halfName)) =
        .error ⟨.parse, "Invalid block response: *"⟩ := by
  constructor
  · have parsed : ((Json.ofString? badResult).bind (·.get? "error")).bind NodeError.ofJson? =
        some ⟨none, none, none⟩ := by decide +kernel
    obtain ⟨error, found, written⟩ := Option.bind_eq_some_iff.mp parsed
    obtain ⟨v, text, member⟩ := Option.bind_eq_some_iff.mp found
    refine ⟨v, error, Json.parse?_iff.mp text, member, NodeError.ofJson?_iff.mp written, ?_⟩
    exact sighting_of_unread (by decide +kernel) rfl
  · have parsed : ((Json.ofString? halfName).bind fun v =>
        if (v.get? "error").isNone then v.get? "result" else none).bind Envelope.headerOfJson? =
          some ⟨"h", 5, "e", "p", "n", 7⟩ := by decide +kernel
    obtain ⟨result, found, written⟩ := Option.bind_eq_some_iff.mp parsed
    obtain ⟨v, text, member⟩ := Option.bind_eq_some_iff.mp found
    split at member
    · rename_i missing
      refine ⟨v, result, Json.parse?_iff.mp text, Option.isNone_iff_eq_none.mp missing, member,
        (reads_header.iff _ _).mp written, ?_⟩
      exact sighting_of_unread (by decide +kernel) rfl
    · cases member

end Node

end HeaderRelay
