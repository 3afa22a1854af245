import HeaderRelay.Proof.Settlement
import HeaderRelay.Proofs.Records
import HeaderRelay.Proofs.Wire

set_option autoImplicit false

namespace HeaderRelay

open Json (Writes Legible depth told)

variable {v : Json} {payload : Bytes} {ms ms' : List (Option String × Json)} {name : String}

/-- The result of a block task is written. -/
inductive BlockResult.Written : Json → BlockResult → Prop
  | intro {v : Json} {r : BlockResult} {word : String}
      (record : Writes ["currentBlockHash", "journal", "proof", "status"] v
        [.text r.block, .text r.journal, .text r.proof, .text word])
      (status : r.status = .ok ↔ word = "OK") : BlockResult.Written v r

/-- The result of an epoch task is written. -/
inductive EpochResult.Written : Json → EpochResult → Prop
  | intro {v : Json} {r : EpochResult} {height : Literal} {word : String}
      (record : Writes ["currentBlockHash", "previousBlockHash", "currentBlockHeight", "status"] v
        [.text r.block, .text r.previousBlock, .number height, .text word])
      (natural : height.IsNatural r.height) (status : r.status = .ok ↔ word = "OK") :
      EpochResult.Written v r

theorem ResultStatus.ofWord_iff {status : ResultStatus} {word : String} :
    ofWord word = status ↔ (status = .ok ↔ word = "OK") := by
  rw [ofWord]
  split <;> cases status <;> simp_all

theorem ResultStatus.ofJson?_iff {status : ResultStatus} :
    ofJson? v = some status ↔ ∃ word, v = .text word ∧ (status = .ok ↔ word = "OK") := by
  simp only [ofJson?, Option.map_eq_some_iff, Json.text?_iff, ofWord_iff]

theorem BlockResult.ofJson?_iff {r : BlockResult} : ofJson? v = some r ↔ Written v r := by
  simp only [ofJson?, Option.bind_eq_bind, Option.bind_eq_some_iff, Slot.required_eq_some,
    Json.text?_iff, ResultStatus.ofJson?_iff, Option.pure_def, Option.some.injEq]
  constructor
  · rintro ⟨form, record, block, ⟨_, first, rfl⟩, journal, ⟨_, second, rfl⟩, proof,
      ⟨_, third, rfl⟩, status, ⟨_, fourth, word, rfl, reported⟩, rfl⟩
    refine .intro (Json.writes_iff.mpr ⟨form, record, ?_⟩) reported
    exact ⟨first, second, third, fourth, trivial⟩
  · rintro ⟨written, reported⟩
    obtain ⟨form, record, first, second, third, fourth, -⟩ := Json.writes_iff.mp written
    exact ⟨form, record, _, ⟨_, first, rfl⟩, _, ⟨_, second, rfl⟩, _, ⟨_, third, rfl⟩, _,
      ⟨_, fourth, _, rfl, reported⟩, rfl⟩

theorem EpochResult.ofJson?_iff {r : EpochResult} : ofJson? v = some r ↔ Written v r := by
  simp only [ofJson?, Option.bind_eq_bind, Option.bind_eq_some_iff, Slot.required_eq_some,
    Json.text?_iff, Json.natural?_iff, ResultStatus.ofJson?_iff, Option.pure_def,
    Option.some.injEq]
  constructor
  · rintro ⟨form, record, block, ⟨_, first, rfl⟩, previous, ⟨_, second, rfl⟩, height,
      ⟨_, third, l, rfl, natural⟩, status, ⟨_, fourth, word, rfl, reported⟩, rfl⟩
    refine .intro (Json.writes_iff.mpr ⟨form, record, ?_⟩) natural reported
    exact ⟨first, second, third, fourth, trivial⟩
  · rintro ⟨written, natural, reported⟩
    obtain ⟨form, record, first, second, third, fourth, -⟩ := Json.writes_iff.mp written
    exact ⟨form, record, _, ⟨_, first, rfl⟩, _, ⟨_, second, rfl⟩, _, ⟨_, third, _, rfl, natural⟩,
      _, ⟨_, fourth, _, rfl, reported⟩, rfl⟩

/-- A payload is one value that can be kept whole. -/
structure Holds (payload : Bytes) (v : Json) : Prop where
  element : Json.Grammar.Element v (Utf8.glyphs payload)
  legible : v.Legible
  shallow : v.depth ≤ 127

/-- What a payload means: the first kind of result that it is a record of, if it is any. -/
inductive ProvingResult.Means (payload : Bytes) : Option ProvingResult → Prop
  | block {v : Json} {r : BlockResult} (holds : Holds payload v) (written : r.Written v) :
      Means payload (some (.block r))
  | epoch {v : Json} {r : EpochResult} (holds : Holds payload v)
      (other : ∀ b, ¬ BlockResult.Written v b) (written : EpochResult.Written v r) :
      Means payload (some (.epoch r))
  | nothing (other : ∀ v, Holds payload v →
      (∀ r, ¬ BlockResult.Written v r) ∧ ∀ r, ¬ EpochResult.Written v r) : Means payload none

theorem Holds.unique {w : Json} (holds : Holds payload v) (holds' : Holds payload w) : v = w :=
  holds.element.unique holds'.element

theorem holds_iff : Holds payload v ↔ (Json.ofBytes? payload).bind Json.whole? = some v := by
  constructor
  · rintro ⟨element, legible, shallow⟩
    have readable := (Json.isReadable_iff 127 v).mpr ⟨legible, shallow⟩
    rw [Json.ofBytes?, Json.parse?_iff.mpr element, Option.bind_some]
    exact if_pos readable
  · intro read
    obtain ⟨w, parsed, whole⟩ := Option.bind_eq_some_iff.mp read
    unfold Json.whole? at whole
    split at whole
    · rename_i readable
      cases whole
      obtain ⟨legible, shallow⟩ := (Json.isReadable_iff 127 v).mp readable
      exact ⟨Json.parse?_iff.mp parsed, legible, shallow⟩
    · cases whole

theorem BlockResult.ofJson?_eq_none : ofJson? v = none ↔ ∀ r, ¬ Written v r := by
  simp only [Option.eq_none_iff_forall_ne_some, ne_eq, ofJson?_iff]

theorem EpochResult.ofJson?_eq_none : ofJson? v = none ↔ ∀ r, ¬ Written v r := by
  simp only [Option.eq_none_iff_forall_ne_some, ne_eq, ofJson?_iff]

namespace ProvingResult

theorem ofPayload?_eq (payload : Bytes) :
    ofPayload? payload = ((Json.ofBytes? payload).bind Json.whole?).bind fun v =>
      match BlockResult.ofJson? v with
      | some result => some (.block result)
      | none => (EpochResult.ofJson? v).map .epoch := by
  rw [ofPayload?]
  cases Json.ofBytes? payload with
  | none => rfl
  | some v =>
    show ofJson? v = _
    rw [ofJson?, Option.bind_some]
    cases v.whole? <;> rfl

/-- A payload that means something, or nothing, is taken for it. -/
theorem Means.ofPayload?_eq {x : Option ProvingResult} (means : Means payload x) :
    ofPayload? payload = x := by
  rw [ProvingResult.ofPayload?_eq]
  cases means with
  | block holds written =>
    rw [holds_iff.mp holds, Option.bind_some, BlockResult.ofJson?_iff.mpr written]
  | epoch holds other written =>
    rw [holds_iff.mp holds, Option.bind_some, BlockResult.ofJson?_eq_none.mpr other,
      EpochResult.ofJson?_iff.mpr written]
    rfl
  | nothing other =>
    cases kept : (Json.ofBytes? payload).bind Json.whole? with
    | none => rfl
    | some v =>
      obtain ⟨noBlock, noEpoch⟩ := other v (holds_iff.mpr kept)
      rw [Option.bind_some, BlockResult.ofJson?_eq_none.mpr noBlock,
        EpochResult.ofJson?_eq_none.mpr noEpoch]
      rfl

theorem means_ofPayload? (payload : Bytes) : Means payload (ofPayload? payload) := by
  rw [ProvingResult.ofPayload?_eq]
  cases kept : (Json.ofBytes? payload).bind Json.whole? with
  | none =>
    refine .nothing fun v holds => ?_
    cases kept.symm.trans (holds_iff.mp holds)
  | some v =>
    have holds := holds_iff.mpr kept
    rw [Option.bind_some]
    cases block : BlockResult.ofJson? v with
    | some r => exact .block holds (BlockResult.ofJson?_iff.mp block)
    | none =>
      have other := BlockResult.ofJson?_eq_none.mp block
      cases epoch : EpochResult.ofJson? v with
      | some r => exact .epoch holds other (EpochResult.ofJson?_iff.mp epoch)
      | none =>
        refine .nothing fun w holds' => ?_
        obtain rfl := holds.unique holds'
        exact ⟨other, EpochResult.ofJson?_eq_none.mp epoch⟩

theorem means_iff {x : Option ProvingResult} : Means payload x ↔ ofPayload? payload = x := by
  constructor
  · exact Means.ofPayload?_eq
  · rintro rfl
    exact means_ofPayload? payload

end ProvingResult

/-- The names of the fields of both kinds of results. -/
def resultFields : List String :=
  ["currentBlockHash", "journal", "proof", "status", "previousBlockHash", "currentBlockHeight"]

/-- The members of an object that are a field of a result. -/
def resultMembers (ms : List (Option String × Json)) : List (Option String × Json) :=
  ms.filter fun m => m.1 ∈ resultFields.map some

/-- What is written for a field is written among the fields. -/
theorem told_resultMembers (field : name ∈ resultFields) :
    told (resultMembers ms) name = told ms name := by
  rw [told, told, resultMembers, List.filter_filter]
  congr 1
  apply List.filter_congr
  intro m member
  by_cases same : m.1 = some name
  · simp [same, field]
  · simp [same]

theorem told_of_perm (perm : (resultMembers ms).Perm (resultMembers ms'))
    (field : name ∈ resultFields) (once : told ms name = [v]) : told ms' name = [v] := by
  have values : (told (resultMembers ms) name).Perm (told (resultMembers ms') name) :=
    (perm.filter _).map _
  rw [told_resultMembers field, told_resultMembers field, once] at values
  exact List.perm_singleton.mp values.symm

/-- Records of the same fields are written by objects with the same members for them. -/
theorem writes_of_perm {fields : List String} {values : List Json}
    (perm : (resultMembers ms).Perm (resultMembers ms')) (readable : Json.Named ms')
    (known : fields ⊆ resultFields) (writes : Writes fields (.object ms) values) :
    Writes fields (.object ms') values := by
  cases writes with
  | named _ once =>
    refine .named readable ?_
    have both := (List.forall₂_and_left _ _).mpr ⟨fun name field => known field, once⟩
    exact both.imp fun name v both => told_of_perm perm both.1 both.2

theorem BlockResult.Written.of_perm {r : BlockResult}
    (perm : (resultMembers ms).Perm (resultMembers ms')) (readable : Json.Named ms')
    (written : Written (.object ms) r) : Written (.object ms') r := by
  obtain ⟨record, status⟩ := written
  exact .intro (writes_of_perm perm readable (by decide) record) status

theorem EpochResult.Written.of_perm {r : EpochResult}
    (perm : (resultMembers ms).Perm (resultMembers ms')) (readable : Json.Named ms')
    (written : Written (.object ms) r) : Written (.object ms') r := by
  obtain ⟨record, natural, status⟩ := written
  exact .intro (writes_of_perm perm readable (by decide) record) natural status

/-- Payloads with the same fields, in any order and among any foreign members, mean the same. -/
theorem ProvingResult.Means.of_perm {payload' : Bytes} {x : Option ProvingResult}
    (means : Means payload x) (holds : Holds payload (.object ms))
    (holds' : Holds payload' (.object ms'))
    (perm : (resultMembers ms).Perm (resultMembers ms')) : Means payload' x := by
  have readable := Json.named_of_legible holds.legible
  have readable' := Json.named_of_legible holds'.legible
  cases means with
  | block held written =>
    obtain rfl := holds.unique held
    exact .block holds' (written.of_perm perm readable')
  | epoch held other written =>
    obtain rfl := holds.unique held
    refine .epoch holds' (fun b written' => ?_) (written.of_perm perm readable')
    exact other b (written'.of_perm perm.symm readable)
  | nothing other =>
    obtain ⟨noBlock, noEpoch⟩ := other _ holds
    refine .nothing fun w held => ?_
    obtain rfl := holds'.unique held
    constructor
    · exact fun r written => noBlock r (written.of_perm perm.symm readable)
    · exact fun r written => noEpoch r (written.of_perm perm.symm readable)

/-- The text of a record of plain values holds the record. -/
theorem holds_record (members : List (String × Json)) (plain : ∀ m ∈ members, Json.Plain m.2) :
    Holds (Utf8.encode (Json.record members).toText) (Json.record members) := by
  have written := Json.ofString?_toText (Json.writable_record plain)
  rw [holds_iff, Json.ofBytes?_encode, written, Option.bind_some, Json.whole?_record plain]

namespace Proof

/-- A payload is taken for what it means: for a block result if it is one, else for an epoch result
if it is one, and else for a fault. Neither the order of its members nor members that are no field
of a result matter. -/
theorem payloads_mean_results :
    (∀ payload result, ProvingResult.ofPayload? payload = result ↔
      ProvingResult.Means payload result) ∧
    (∀ payload result, ProvingResult.Means payload (some result) →
      settlePayload payload = settle result) ∧
    (∀ payload, ProvingResult.Means payload none →
      settlePayload payload = Action.fail ⟨.parse, "*"⟩) ∧
    ∀ payload payload' ms ms', Holds payload (.object ms) → Holds payload' (.object ms') →
      (resultMembers ms).Perm (resultMembers ms') →
        ProvingResult.ofPayload? payload = ProvingResult.ofPayload? payload' := by
  refine ⟨fun _ _ => ProvingResult.means_iff.symm, ?_, ?_, ?_⟩
  · intro payload result means
    rw [settlePayload, means.ofPayload?_eq]
  · intro payload means
    rw [settlePayload, means.ofPayload?_eq]
  · intro payload payload' ms ms' holds holds' perm
    have means := ProvingResult.means_ofPayload? payload
    exact (means.of_perm holds holds' perm).ofPayload?_eq.symm

def someMembers : List (String × Json) :=
  [("currentBlockHash", .text "h"), ("journal", .text "01"), ("proof", .text ""),
    ("status", .text "OK")]

/-- The same members from the last to the first, with a foreign one among them. -/
def otherMembers : List (String × Json) :=
  [("status", .text "OK"), ("proof", .text ""), ("seen", .nat 1), ("journal", .text "01"),
    ("currentBlockHash", .text "h")]

theorem payloads_mean_results_reordered :
    ProvingResult.Means (Utf8.encode (Json.record otherMembers).toText)
      (some (.block ⟨"h", "01", "", .ok⟩)) := by
  have holds := holds_record someMembers (by simp [someMembers, Json.Plain.text])
  have holds' := holds_record otherMembers (by simp [otherMembers, Json.Plain.text, Json.Plain.nat])
  have written : BlockResult.Written (Json.record someMembers) ⟨"h", "01", "", .ok⟩ := by
    refine .intro (.named (Json.named_of_legible holds.legible) ?_) (iff_of_true rfl rfl)
    exact .cons rfl (.cons rfl (.cons rfl (.cons rfl .nil)))
  obtain ⟨accepted, -, -, reordered⟩ := payloads_mean_results
  rw [← accepted, ← reordered _ _ _ _ holds holds' (List.reverse_perm _).symm, accepted]
  exact .block holds written

end Proof

end HeaderRelay
