import HeaderRelay.Proofs.Spelling
import HeaderRelay.Wire.Chain
import HeaderRelay.Wire.Proof

set_option autoImplicit false

namespace HeaderRelay

namespace Form

variable {α : Type} {members : List (String × α)} {name : String} {a : α}

theorem under_cons (key : String) (b : α) (members : List (String × α)) (name : String) :
    under ((key, b) :: members) name =
      if key = name then b :: under members name else under members name := by
  by_cases same : key = name <;> simp [under, same]

theorem under_of_not_mem (absent : name ∉ members.map Prod.fst) : under members name = [] := by
  induction members with
  | nil => rfl
  | cons m members ih =>
    obtain ⟨key, b⟩ := m
    rw [List.map_cons, List.mem_cons, not_or] at absent
    rw [under_cons, if_neg (Ne.symm absent.1)]
    exact ih absent.2

theorem under_of_mem (distinct : (members.map Prod.fst).Nodup) (member : (name, a) ∈ members) :
    under members name = [a] := by
  induction members with
  | nil => cases member
  | cons m members ih =>
    obtain ⟨key, b⟩ := m
    rw [List.map_cons, List.nodup_cons] at distinct
    rcases List.mem_cons.mp member with first | later
    · cases first
      rw [under_cons, if_pos rfl, under_of_not_mem distinct.1]
    · have other : key ≠ name := by
        rintro rfl
        exact distinct.1 (List.mem_map.mpr ⟨_, later, rfl⟩)
      rw [under_cons, if_neg other]
      exact ih distinct.2 later

/-- A record written by name is admitted if no name is written twice. -/
theorem admits_named (distinct : (members.map Prod.fst).Nodup) (names : List String) :
    (Form.named members).admits names = true := by
  rw [admits, List.all_eq_true]
  intro name _
  by_cases written : name ∈ members.map Prod.fst
  · obtain ⟨⟨_, a⟩, member, rfl⟩ := List.mem_map.mp written
    rw [under_of_mem distinct member]
    rfl
  · rw [under_of_not_mem written]
    rfl

end Form

namespace Json

variable {members : List (String × Json)}

theorem named?_of_record {fields : List (Option String × Json)}
    (written : record members = .object fields) : named? fields = some members := by
  induction members generalizing fields with
  | nil =>
    cases written
    rfl
  | cons m members ih =>
    cases written
    rw [List.map_cons, named?, ih rfl]
    rfl

theorem form?_record (members : List (String × Json)) :
    (record members).form? = some (.named members) := by
  rw [record, form?, named?_of_record rfl]
  rfl

theorem recordOf?_record (distinct : (members.map Prod.fst).Nodup) (names : List String) :
    (record members).recordOf? names = some (.named members) := by
  rw [recordOf?, form?_record, Option.filter_some, Form.admits_named distinct, if_pos rfl]

/-- A string or a number of 64 bits can be written and read. -/
inductive Plain : Json → Prop
  | text (s : String) : Plain (.text s)
  | nat {n : Nat} (fits : n < 2 ^ 64) : Plain (.nat n)

theorem Plain.writable {v : Json} (plain : Plain v) : v.Writable := by
  cases plain with
  | text s => rfl
  | nat fits => exact Literal.valid_ofNat _

theorem Plain.isReadable {v : Json} (plain : Plain v) (room : Nat) : v.isReadable room = true := by
  cases plain with
  | text s => rfl
  | nat fits => rw [Json.nat, Json.isReadable, Literal.numeral?_ofNat fits]; rfl

/-- A record of values that can be written can be written. -/
theorem writable_of_members (all : ∀ m ∈ members, m.2.Writable) : (record members).Writable := by
  rw [record, Writable]
  induction members with
  | nil => trivial
  | cons m members ih =>
    have first := all m List.mem_cons_self
    have others := ih fun m member => all m (List.mem_cons_of_mem _ member)
    exact ⟨rfl, first, others⟩

theorem writable_record (plain : ∀ m ∈ members, Plain m.2) : (record members).Writable :=
  writable_of_members fun m member => (plain m member).writable

theorem membersReadable_of_record {fields : List (Option String × Json)}
    (plain : ∀ m ∈ members, Plain m.2) (written : record members = .object fields) (room : Nat) :
    membersReadable room fields = true := by
  induction members generalizing fields with
  | nil =>
    cases written
    rfl
  | cons m members ih =>
    cases written
    have first := (plain m List.mem_cons_self).isReadable room
    have others := ih (fun m member => plain m (List.mem_cons_of_mem _ member)) rfl
    rw [List.map_cons, membersReadable, first, others]
    rfl

theorem whole?_record (plain : ∀ m ∈ members, Plain m.2) :
    (record members).whole? = some (record members) := by
  have nested : (record members).isReadable deepest = true :=
    membersReadable_of_record plain rfl 126
  rw [whole?, nested, if_pos rfl]

/-- A value that a reader gets back from either text and from its bytes. -/
structure Carries {α : Type} (read : Json → Option α) (v : Json) (a : α) : Prop where
  text : (ofString? v.toText).bind read = some a
  lines : (ofString? v.toLines).bind read = some a
  bytes : (ofBytes? (Utf8.encode v.toText)).bind read = some a

theorem carries {α : Type} {read : Json → Option α} {v : Json} {a : α} (writable : v.Writable)
    (reads : read v = some a) : Carries read v a where
  text := by rw [ofString?_toText writable, Option.bind_some, reads]
  lines := by rw [ofString?_toLines writable, Option.bind_some, reads]
  bytes := by rw [ofBytes?_encode, ofString?_toText writable, Option.bind_some, reads]

end Json

theorem BlockTask.fields_nodup : fields.Nodup := by decide

theorem EpochTask.fields_nodup : fields.Nodup := by decide

theorem BlockResult.fields_nodup : fields.Nodup := by decide

theorem EpochResult.fields_nodup : fields.Nodup := by decide

theorem ProofRecord.fields_nodup : fields.Nodup := by decide

theorem BlockTask.ofJson?_toJson (t : BlockTask) : ofJson? t.toJson = some t := by
  rw [ofJson?, toJson, Json.recordOf?_record (by exact fields_nodup)]
  rfl

theorem EpochTask.ofJson?_toJson (t : EpochTask) : ofJson? t.toJson = some t := by
  rw [ofJson?, toJson, Json.recordOf?_record (by exact fields_nodup)]
  rfl

theorem EpochTask.ofJson?_blockTask (t : BlockTask) : ofJson? t.toJson = none := by
  rw [ofJson?, BlockTask.toJson, Json.recordOf?_record (by exact BlockTask.fields_nodup)]
  rfl

theorem ResultStatus.ofWord_word (s : ResultStatus) : ofWord s.word = s := by
  cases s <;> rfl

theorem BlockResult.ofJson?_toJson (r : BlockResult) : ofJson? r.toJson = some r := by
  rw [ofJson?, toJson, Json.recordOf?_record (by exact fields_nodup)]
  show some (BlockResult.mk r.block r.journal r.proof (.ofWord r.status.word)) = some r
  rw [ResultStatus.ofWord_word]

theorem EpochResult.ofJson?_toJson {r : EpochResult} (fits : r.height < 2 ^ 64) :
    ofJson? r.toJson = some r := by
  have height := Literal.natural?_ofNat fits
  rw [ofJson?, toJson, Json.recordOf?_record (by exact fields_nodup)]
  show ((Literal.ofNat r.height).natural?).bind _ = _
  rw [height]
  show some (EpochResult.mk r.block r.previousBlock r.height (.ofWord r.status.word)) = some r
  rw [ResultStatus.ofWord_word]

theorem BlockResult.ofJson?_epochResult (r : EpochResult) : ofJson? r.toJson = none := by
  rw [ofJson?, EpochResult.toJson, Json.recordOf?_record (by exact EpochResult.fields_nodup)]
  rfl

theorem ProofStatus.ofJson?_toJson (s : ProofStatus) : ofJson? s.toJson = some s := by
  cases s <;> rfl

/-- The numbers of a record are of 64 bits. -/
structure ProofRecord.Fits (r : ProofRecord) : Prop where
  height : r.height < 2 ^ 64
  timestamp : r.timestamp < 2 ^ 64
  created : r.created < 2 ^ 64

theorem ProofRecord.ofJson?_toJson {r : ProofRecord} (fits : r.Fits) :
    ofJson? r.toJson = some r := by
  have height := Literal.natural?_ofNat fits.height
  have timestamp := Literal.natural?_ofNat fits.timestamp
  have status := ProofStatus.ofJson?_toJson r.status
  have created := Literal.natural?_ofNat fits.created
  rw [ofJson?, toJson, Json.recordOf?_record (by exact fields_nodup)]
  show ((Literal.ofNat r.height).natural?).bind _ = _
  rw [height]
  show ((Literal.ofNat r.timestamp).natural?).bind _ = _
  rw [timestamp]
  show (ProofStatus.ofJson? r.status.toJson).bind _ = _
  rw [status]
  show ((Literal.ofNat r.created).natural?).bind _ = _
  rw [created]
  rfl

/-- The numbers of a result are of 64 bits. -/
def ProvingResult.Fits : ProvingResult → Prop
  | .block _ => True
  | .epoch result => result.height < 2 ^ 64

def BlockId.Fits : BlockId → Prop
  | .height n => n < 2 ^ 64
  | .hash _ => True

open Json (Plain)

theorem ProvingTask.exists_record (t : ProvingTask) :
    ∃ members, t.toJson = .record members ∧ ∀ m ∈ members, Plain m.2 := by
  cases t with
  | epoch task =>
    refine ⟨_, rfl, ?_⟩
    simp [Plain.text]
  | block task =>
    refine ⟨_, rfl, ?_⟩
    simp [Plain.text]

/-- The values of a result are plain if its numbers are of 64 bits. -/
theorem ProvingResult.exists_record {r : ProvingResult} (fits : r.Fits) :
    ∃ members, r.toJson = .record members ∧ ∀ m ∈ members, Plain m.2 := by
  cases r with
  | block result =>
    refine ⟨_, rfl, ?_⟩
    simp [Plain.text, ResultStatus.toJson]
  | epoch result =>
    have height := Plain.nat fits
    refine ⟨_, rfl, ?_⟩
    simp [Plain.text, ResultStatus.toJson, height]

theorem ProofRecord.exists_record {r : ProofRecord} (fits : r.Fits) :
    ∃ members, r.toJson = .record members ∧ ∀ m ∈ members, Plain m.2 := by
  have height := Plain.nat fits.height
  have timestamp := Plain.nat fits.timestamp
  have created := Plain.nat fits.created
  refine ⟨_, rfl, ?_⟩
  simp [Plain.text, ProofStatus.toJson, height, timestamp, created]

theorem BlockId.plain_toJson {b : BlockId} (fits : b.Fits) : Plain b.toJson := by
  cases b with
  | height n => exact .nat fits
  | hash s => exact .text s

/-- A task is read as a task of its kind: an epoch task is tried first, and a block task lacks its
fields. -/
theorem ProvingTask.carries_toJson (t : ProvingTask) : Json.Carries ofJson? t.toJson t := by
  obtain ⟨members, same, plain⟩ := t.exists_record
  have writable : t.toJson.Writable := same ▸ Json.writable_record plain
  have whole : t.toJson.whole? = some t.toJson := same ▸ Json.whole?_record plain
  apply Json.carries writable
  rw [ofJson?, whole]
  cases t with
  | epoch task =>
    have reads := EpochTask.ofJson?_toJson task
    simp only [toJson, reads]
  | block task =>
    have other := EpochTask.ofJson?_blockTask task
    have reads := BlockTask.ofJson?_toJson task
    simp only [toJson, other, reads, Option.map_some]

/-- A result is read as a result of its kind: a block result is tried first, and an epoch result
lacks its fields. -/
theorem ProvingResult.carries_toJson {r : ProvingResult} (fits : r.Fits) :
    Json.Carries ofJson? r.toJson r := by
  obtain ⟨members, same, plain⟩ := exists_record fits
  have writable : r.toJson.Writable := same ▸ Json.writable_record plain
  have whole : r.toJson.whole? = some r.toJson := same ▸ Json.whole?_record plain
  apply Json.carries writable
  rw [ofJson?, whole]
  cases r with
  | block result =>
    have reads := BlockResult.ofJson?_toJson result
    simp only [toJson, reads]
  | epoch result =>
    have other := BlockResult.ofJson?_epochResult result
    have reads := EpochResult.ofJson?_toJson fits
    simp only [toJson, other, reads, Option.map_some]

theorem ProofRecord.carries_toJson {r : ProofRecord} (fits : r.Fits) :
    Json.Carries ofJson? r.toJson r := by
  obtain ⟨members, same, plain⟩ := exists_record fits
  have writable : r.toJson.Writable := same ▸ Json.writable_record plain
  exact Json.carries writable (ofJson?_toJson fits)

/-- A hash is a string, so that no hash is read as a height. -/
theorem BlockId.carries_toJson {b : BlockId} (fits : b.Fits) : Json.Carries ofJson? b.toJson b := by
  have plain := plain_toJson fits
  have whole : b.toJson.whole? = some b.toJson := by
    rw [Json.whole?, plain.isReadable, if_pos rfl]
  apply Json.carries plain.writable
  rw [ofJson?, whole]
  cases b with
  | height n =>
    have reads := Literal.natural?_ofNat fits
    simp only [toJson, Json.nat, Json.natural?, reads]
  | hash s => rfl

/-- The payload of a message is read as the result that was written to it. -/
theorem ProvingResult.ofPayload?_encode {r : ProvingResult} (fits : r.Fits) :
    ofPayload? (Utf8.encode r.toJson.toText) = some r := by
  have bytes := (carries_toJson fits).bytes
  rw [ofPayload?]
  cases read : Json.ofBytes? (Utf8.encode r.toJson.toText) with
  | none =>
    rw [read] at bytes
    cases bytes
  | some v =>
    rw [read] at bytes
    exact bytes

/-- Nothing is lost on the wire: every task, result, record and block id is read back from the text
and from the bytes written for it, and with it the hash and the status that it is matched by. -/
theorem wire_lossless :
    (∀ t : ProvingTask, Json.Carries ProvingTask.ofJson? t.toJson t ∧
      ∀ u, (Json.ofString? t.toJson.toText).bind ProvingTask.ofJson? = some u →
        u.hash = t.hash) ∧
    (∀ r : ProvingResult, r.Fits → Json.Carries ProvingResult.ofJson? r.toJson r ∧
      ProvingResult.ofPayload? (Utf8.encode r.toJson.toText) = some r ∧
      ∀ u, (Json.ofString? r.toJson.toText).bind ProvingResult.ofJson? = some u →
        u.hash = r.hash ∧ u.status = r.status) ∧
    (∀ p : ProofRecord, p.Fits → Json.Carries ProofRecord.ofJson? p.toJson p) ∧
    (∀ b : BlockId, b.Fits → Json.Carries BlockId.ofJson? b.toJson b) := by
  refine ⟨fun t => ?_, fun r fits => ?_, fun p => ProofRecord.carries_toJson,
    fun b => BlockId.carries_toJson⟩
  · have carried := t.carries_toJson
    refine ⟨carried, fun u read => ?_⟩
    have same := carried.text.symm.trans read
    cases same
    rfl
  · have carried := ProvingResult.carries_toJson fits
    refine ⟨carried, ProvingResult.ofPayload?_encode fits, fun u read => ?_⟩
    have same := carried.text.symm.trans read
    cases same
    exact ⟨rfl, rfl⟩

theorem wire_lossless_greatest :
    Json.Carries ProvingTask.ofJson? (ProvingTask.block ⟨"\"\\\n", "", "é"⟩).toJson
      (.block ⟨"\"\\\n", "", "é"⟩) ∧
    ProvingResult.ofPayload? (Utf8.encode
      (ProvingResult.epoch ⟨"a\t", "b", 18446744073709551615, .error⟩).toJson.toText) =
        some (.epoch ⟨"a\t", "b", 18446744073709551615, .error⟩) ∧
    Json.Carries ProofRecord.ofJson?
      (ProofRecord.mk "h" 7 "e" 18446744073709551615 .inProcessing 0).toJson
      ⟨"h", 7, "e", 18446744073709551615, .inProcessing, 0⟩ ∧
    Json.Carries BlockId.ofJson? (BlockId.hash "17").toJson (.hash "17") ∧
    Json.Carries BlockId.ofJson? (BlockId.height 17).toJson (.height 17) := by
  obtain ⟨tasks, results, records, ids⟩ := wire_lossless
  refine ⟨(tasks _).1, (results (.epoch _) ?_).2.1, records _ ?_, ids (.hash _) trivial,
    ids (.height _) ?_⟩
  · show 18446744073709551615 < 2 ^ 64
    decide
  · exact ⟨by decide, by decide, by decide⟩
  · show 17 < 2 ^ 64
    decide

end HeaderRelay
