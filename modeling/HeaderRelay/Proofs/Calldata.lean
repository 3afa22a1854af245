import HeaderRelay.Proofs.Hexadecimal
import HeaderRelay.Proofs.Inclusion
import HeaderRelay.Proofs.Ledger

set_option autoImplicit false

namespace HeaderRelay.Ledger

namespace Abi

variable {a b : Bytes}

/-- The byte string at an offset: its length, its bytes, and zeros up to a whole word. -/
def stringAt? (data : Bytes) (offset : Nat) : Option Bytes :=
  match wordAt? (data.drop offset) 0 with
  | none => none
  | some size =>
      let rest := (data.drop offset).drop wordSize
      let count := number size
      let filling := paddedSize count - count
      if (rest.take count).length = count ∧
          (rest.drop count).take filling = List.replicate filling 0 then some (rest.take count)
      else none

/-- The two byte strings that arguments hold, each behind its offset. -/
def strings? (data : Bytes) : Option (Bytes × Bytes) := do
  let first ← wordAt? data 0
  let second ← wordAt? data 1
  let a ← stringAt? data (number first)
  let b ← stringAt? data (number second)
  return (a, b)

theorem length_dynamic (bytes : Bytes) : (dynamic bytes).length = 32 + paddedSize bytes.length := by
  have enough : bytes.length ≤ paddedSize bytes.length := by
    unfold paddedSize
    omega
  rw [dynamic, List.length_append, List.length_append, List.length_replicate, length_word]
  omega

theorem paddedSize_lt (n : Nat) : paddedSize n < n + 32 := by
  unfold paddedSize
  omega

theorem stringAt?_dynamic (bytes before after : Bytes) (fits : bytes.length < 2 ^ 256) :
    stringAt? (before ++ (dynamic bytes ++ after)) before.length = some bytes := by
  have count := number_word fits
  have size := length_word bytes.length
  have parts : dynamic bytes ++ after = word bytes.length ++ (bytes ++
      (List.replicate (paddedSize bytes.length - bytes.length) 0 ++ after)) := by
    rw [dynamic, List.append_assoc, List.append_assoc]
  generalize word bytes.length = first at count size parts
  have rest : (first ++ (bytes ++ (List.replicate (paddedSize bytes.length - bytes.length) 0 ++
      after))).drop wordSize = bytes ++
        (List.replicate (paddedSize bytes.length - bytes.length) 0 ++ after) := by
    rw [wordSize, ← size, List.drop_left]
  have filling : (List.replicate (paddedSize bytes.length - bytes.length) (0 : UInt8) ++
      after).take (paddedSize bytes.length - bytes.length) =
        List.replicate (paddedSize bytes.length - bytes.length) 0 :=
    List.take_left' List.length_replicate
  rw [stringAt?, List.drop_left, parts, wordAt?_zero size]
  simp only [rest, count, List.take_left, List.drop_left, filling, and_self, if_true]

theorem strings?_twoStrings (fits : a.length < 2 ^ 255) (fits' : b.length < 2 ^ 255) :
    strings? (twoStrings a b) = some (a, b) := by
  have padded := paddedSize_lt a.length
  have length := length_dynamic a
  have near := number_word (n := 2 * wordSize) (by decide)
  have far := number_word (n := 2 * wordSize + (dynamic a).length) (by
    rw [length, wordSize]
    omega)
  have size := length_word (2 * wordSize)
  have size' := length_word (2 * wordSize + (dynamic a).length)
  rw [strings?, twoStrings]
  generalize word (2 * wordSize) = first at near size
  generalize word (2 * wordSize + (dynamic a).length) = second at far size'
  have heads : (first ++ second).length = 2 * wordSize := by
    rw [List.length_append, size, size', wordSize]
  have found := stringAt?_dynamic a (first ++ second) (dynamic b) (by omega)
  have found' := stringAt?_dynamic b (first ++ second ++ dynamic a) [] (by omega)
  rw [List.length_append, heads, List.append_nil] at found'
  rw [heads] at found
  rw [List.append_assoc (first ++ second)] at found'
  have word := wordAt?_zero size (second ++ (dynamic a ++ dynamic b))
  have word' := (wordAt?_succ size (second ++ (dynamic a ++ dynamic b)) 0).trans
    (wordAt?_zero size' (dynamic a ++ dynamic b))
  rw [← List.append_assoc] at word word'
  rw [List.append_assoc (first ++ second), word, word']
  simp only [Option.bind_eq_bind, Option.bind_some, near, far, found, found', Option.pure_def]

end Abi

variable {method : Method} {arguments bytes a b : Bytes} {field text journal proof : String}
  {trace : Trace contractNode} {outcome : Option (Except Fault Unit)}

/-- The characters of a text behind one leading `0x`, if it has one. -/
def unmarked (text : String) : List Char :=
  if ['0', 'x'].isPrefixOf text.toList then text.toList.drop 2 else text.toList

/-- A text that is an even number of hexadecimal digits, behind a mark or not. -/
def IsPayload (text : String) : Prop := Hex.Paired (unmarked text)

def Payload (text : String) (bytes : Bytes) : Prop := Hex.Spells (unmarked text) bytes

def digitFault (field : String) (defect : Hex.Defect) : Fault :=
  ⟨.parse, "Invalid hex in " ++ field ++ ": " ++ defect.message⟩

/-- A call ends in a fault about the digits in a field, and sends nothing. -/
def RefusedFor (field : String) (trace : Trace contractNode)
    (outcome : Option (Except Fault Unit)) : Prop :=
  (∀ data reply, ⟨.send data, reply⟩ ∉ trace) ∧
    ∃ defect, outcome = some (.error (digitFault field defect))

theorem toList_dropMark (text : String) : (Hex.dropMark text).toList = unmarked text := by
  rw [Hex.dropMark, unmarked]
  split
  · rename_i rest split
    rw [String.toList_ofList, split]
    simp
  · rename_i other
    split
    · rename_i marked
      obtain ⟨rest, split⟩ := List.isPrefixOf_iff_prefix.mp marked
      exact absurd split.symm (other rest)
    · rfl

theorem payloadBytes_iff : payloadBytes field text = .ok bytes ↔ Payload text bytes := by
  rw [Payload, ← toList_dropMark, ← Hex.decodeText_iff, payloadBytes]
  cases Hex.decodeText (Hex.dropMark text) <;> simp

theorem exists_payload_iff : (∃ bytes, Payload text bytes) ↔ IsPayload text :=
  Hex.exists_spells_iff

theorem error_of_not_isPayload (other : ¬ IsPayload text) (field : String) :
    ∃ defect, payloadBytes field text = .error (digitFault field defect) := by
  cases read : Hex.decodeText (Hex.dropMark text) with
  | error defect =>
    refine ⟨defect, ?_⟩
    rw [payloadBytes, read]
    rfl
  | ok bytes =>
    rw [Hex.decodeText_iff, toList_dropMark] at read
    exact absurd (exists_payload_iff.mp ⟨bytes, read⟩) other

/-- A text is at most as long as its digits: two for each of its bytes. -/
theorem Payload.length_le (payload : Payload text bytes) : 2 * bytes.length ≤ text.length := by
  have spelled := Hex.Spells.length_eq payload
  rw [unmarked] at spelled
  split at spelled
  · rw [List.length_drop, String.length_toList] at spelled
    omega
  · rw [String.length_toList] at spelled
    omega

theorem digitFault_ne (first second : Hex.Defect) :
    digitFault "journal" first ≠ digitFault "proof" second := by
  intro same
  have texts := congrArg (fun fault => fault.detail.toList) same
  simp [digitFault, String.toList_append] at texts

theorem proofArguments_of_payloads (first : Payload journal a) (second : Payload proof b) :
    proofArguments journal proof = .ok (Abi.twoStrings a b) := by
  rw [proofArguments, payloadBytes_iff.mpr first, payloadBytes_iff.mpr second]
  rfl

/-- The first text that is no payload decides; two payloads become two byte strings. -/
theorem proofArguments_cases (journal proof : String) :
    (¬ IsPayload journal ∧
      ∃ defect, proofArguments journal proof = .error (digitFault "journal" defect)) ∨
    (IsPayload journal ∧ ¬ IsPayload proof ∧
      ∃ defect, proofArguments journal proof = .error (digitFault "proof" defect)) ∨
    ∃ a b, Payload journal a ∧ Payload proof b ∧
      proofArguments journal proof = .ok (Abi.twoStrings a b) := by
  by_cases first : IsPayload journal
  · obtain ⟨a, spelled⟩ := exists_payload_iff.mpr first
    by_cases second : IsPayload proof
    · obtain ⟨b, spelled'⟩ := exists_payload_iff.mpr second
      exact .inr (.inr ⟨a, b, spelled, spelled', proofArguments_of_payloads spelled spelled'⟩)
    · obtain ⟨defect, refused⟩ := error_of_not_isPayload second "proof"
      refine .inr (.inl ⟨first, second, defect, ?_⟩)
      rw [proofArguments, payloadBytes_iff.mpr spelled, refused]
      rfl
  · obtain ⟨defect, refused⟩ := error_of_not_isPayload first "journal"
    refine .inl ⟨first, defect, ?_⟩
    rw [proofArguments, refused]
    rfl

/-- What a submission of two texts does. -/
structure Carried (journal proof : String) (trace : Trace contractNode)
    (outcome : Option (Except Fault Unit)) : Prop where
  /-- It is refused for its first text exactly if that is no payload. -/
  journal_iff : RefusedFor "journal" trace outcome ↔ ¬ IsPayload journal
  /-- It is refused for its second text exactly if only that is no payload. -/
  proof_iff : RefusedFor "proof" trace outcome ↔ IsPayload journal ∧ ¬ IsPayload proof
  /-- Nothing else is a fault of what was given. -/
  parse_iff : (∃ fault, outcome = some (.error fault) ∧ fault.kind = .parse) ↔
    ¬ (IsPayload journal ∧ IsPayload proof)
  /-- What is sent holds the bytes of both payloads. -/
  sent : ∀ data reply, ⟨.send data, reply⟩ ∈ trace → ∃ a b arguments,
    Payload journal a ∧ Payload proof b ∧ data = Method.verifyProof.selector ++ arguments ∧
      Abi.strings? arguments = some (a, b)
  /-- Two payloads are sent, unless the node fails before. -/
  delivered : IsPayload journal → IsPayload proof → outcome.isSome →
    (∃ data reply, ⟨.send data, reply⟩ ∈ trace) ∨ ⟨.nonce, some none⟩ ∈ trace ∨
      ∃ data, ⟨.gas data, some none⟩ ∈ trace

theorem Written.delivered {data : Bytes} {ended : Except Fault Unit}
    (written : Written method data trace ended) :
    (∃ data reply, ⟨.send data, reply⟩ ∈ trace) ∨ ⟨.nonce, some none⟩ ∈ trace ∨
      ∃ data, ⟨.gas data, some none⟩ ∈ trace := by
  cases written with
  | unsent sent =>
    cases sent with
    | uncounted => exact .inr (.inl (.head _))
    | unmeasured nonce => exact .inr (.inr ⟨data, .tail _ (.head _)⟩)
    | refused nonce gas => exact .inl ⟨data, some none, .tail _ (.tail _ (.head _))⟩
  | sent sent confirmed =>
    cases sent with
    | taken nonce gas => exact .inl ⟨data, _, .tail _ (.tail _ (.head _))⟩

theorem carried_of_journal {defect : Hex.Defect} (other : ¬ IsPayload journal) :
    Carried journal proof [] (some (.error (digitFault "journal" defect))) where
  journal_iff := ⟨fun _ => other, fun _ => ⟨by simp, defect, rfl⟩⟩
  proof_iff := by
    constructor
    · rintro ⟨-, defect', same⟩
      exact absurd (Except.error.inj (Option.some.inj same)) (digitFault_ne defect defect')
    · rintro ⟨first, -⟩
      exact absurd first other
  parse_iff := ⟨fun _ both => other both.1, fun _ => ⟨_, rfl, rfl⟩⟩
  sent := by simp
  delivered first := absurd first other

theorem carried_of_proof {defect : Hex.Defect} (first : IsPayload journal)
    (other : ¬ IsPayload proof) :
    Carried journal proof [] (some (.error (digitFault "proof" defect))) where
  journal_iff := by
    constructor
    · rintro ⟨-, defect', same⟩
      exact absurd (Except.error.inj (Option.some.inj same)).symm (digitFault_ne defect' defect)
    · intro impossible
      exact absurd first impossible
  proof_iff := ⟨fun _ => ⟨first, other⟩, fun _ => ⟨by simp, defect, rfl⟩⟩
  parse_iff := ⟨fun _ both => other both.2, fun _ => ⟨_, rfl, rfl⟩⟩
  sent := by simp
  delivered _ second := absurd second other

/-- A method that writes ends in no fault of what was given. -/
theorem kind_ne_parse {fault : Fault}
    (run : (write method arguments).run.Runs trace (some (.error fault))) :
    fault.kind ≠ .parse := by
  rw [(write_cases run).kind]
  decide

theorem carried_of_payloads (fits : a.length < 2 ^ 255) (fits' : b.length < 2 ^ 255)
    (first : Payload journal a) (second : Payload proof b)
    (run : (write .verifyProof (Abi.twoStrings a b)).run.Runs trace outcome) :
    Carried journal proof trace outcome where
  journal_iff := by
    constructor
    · rintro ⟨-, defect, rfl⟩
      exact absurd rfl (kind_ne_parse run)
    · intro other
      exact absurd (exists_payload_iff.mp ⟨a, first⟩) other
  proof_iff := by
    constructor
    · rintro ⟨-, defect, rfl⟩
      exact absurd rfl (kind_ne_parse run)
    · rintro ⟨-, other⟩
      exact absurd (exists_payload_iff.mp ⟨b, second⟩) other
  parse_iff := by
    constructor
    · rintro ⟨fault, rfl, parsed⟩
      exact absurd parsed (kind_ne_parse run)
    · intro other
      exact absurd ⟨exists_payload_iff.mp ⟨a, first⟩, exists_payload_iff.mp ⟨b, second⟩⟩ other
  sent := by
    intro data reply sends
    have same := (write_asks _ _).mem run _ sends data rfl
    exact ⟨a, b, _, first, second, same, Abi.strings?_twoStrings fits fits'⟩
  delivered := by
    intro _ _ ended
    obtain ⟨ended, rfl⟩ := Option.isSome_iff_exists.mp ended
    exact (write_cases run).delivered

theorem carried_of_runs (size : journal.length < 2 ^ 256) (size' : proof.length < 2 ^ 256)
    (run : (submit journal proof).run.Runs trace outcome) :
    Carried journal proof trace outcome := by
  rw [submit_eq] at run
  rcases proofArguments_cases journal proof with ⟨other, defect, refused⟩ |
    ⟨first, other, defect, refused⟩ | ⟨a, b, first, second, converted⟩
  · rw [refused] at run
    obtain ⟨rfl, rfl⟩ := Program.runs_done run
    exact carried_of_journal other
  · rw [refused] at run
    obtain ⟨rfl, rfl⟩ := Program.runs_done run
    exact carried_of_proof first other
  · rw [converted] at run
    have short := first.length_le
    have short' := second.length_le
    exact carried_of_payloads (by omega) (by omega) first second run

/-- The proof that is sent is the proof that was given. A submission is refused, and nothing sent,
exactly if a text is no payload; otherwise its call data holds the bytes of both payloads, so that
submissions with the same call data have the same bytes. No memory holds a longer text. -/
theorem submissions_carry_payloads (size : journal.length < 2 ^ 256)
    (size' : proof.length < 2 ^ 256) (run : (submit journal proof).run.Runs trace outcome) :
    Carried journal proof trace outcome ∧
      ∀ (journal' proof' : String) (trace' : Trace contractNode)
        (outcome' : Option (Except Fault Unit)), journal'.length < 2 ^ 256 →
        proof'.length < 2 ^ 256 → (submit journal' proof').run.Runs trace' outcome' →
        ∀ data reply reply', ⟨.send data, reply⟩ ∈ trace → ⟨.send data, reply'⟩ ∈ trace' →
        ∀ a a' b b', Payload journal a → Payload journal' a' → Payload proof b →
          Payload proof' b' → a = a' ∧ b = b' := by
  have carried := carried_of_runs size size' run
  refine ⟨carried, ?_⟩
  intro journal' proof' trace' outcome' small small' run' data reply reply' sends sends'
    a a' b b' first first' second second'
  obtain ⟨x, y, _, spelled, spelled', rfl, held⟩ := carried.sent data reply sends
  obtain ⟨x', y', _, other, other', same, held'⟩ :=
    (carried_of_runs small small' run').sent _ reply' sends'
  cases List.append_cancel_left same
  cases held.symm.trans held'
  have firsts := (first.unique spelled).trans (first'.unique other).symm
  have seconds := (second.unique spelled').trans (second'.unique other').symm
  exact ⟨firsts, seconds⟩

theorem submissions_carry_two_bytes :
    ∃ trace : Trace contractNode, ∃ data : Bytes, ⟨.send data, some none⟩ ∈ trace ∧
      Carried "0xAb02" "" trace (some (.error (unsentFault .verifyProof))) ∧
      Abi.strings? (data.drop 4) = some ([0xab, 2], []) := by
  have first : Payload "0xAb02" [0xab, 2] :=
    .pair (.inr rfl) (.inl rfl) (.pair (.inl rfl) (.inl rfl) .nil)
  have second : Payload "" [] := .nil
  have run : (submit "0xAb02" "").run.Runs
      [⟨.nonce, some (some 0)⟩,
        ⟨.gas (Method.verifyProof.selector ++ Abi.twoStrings [0xab, 2] []), some (some 21000)⟩,
        ⟨.send (Method.verifyProof.selector ++ Abi.twoStrings [0xab, 2] []), some none⟩]
      (some (.error (unsentFault .verifyProof))) := by
    rw [submit_eq, proofArguments_of_payloads first second]
    refine @Program.Runs.answered contractNode _ NodeCall.nonce _ _ _ (some 0 : Option Nat) ?_
    refine @Program.Runs.answered contractNode _ (NodeCall.gas _) _ _ _ (some 21000 : Option Nat) ?_
    exact @Program.Runs.answered contractNode _ (NodeCall.send _) _ _ _ (none : Option Bytes)
      (.done _)
  exact ⟨_, _, .tail _ (.tail _ (.head _)),
    (submissions_carry_payloads (by decide) (by decide) run).1, by decide +kernel⟩

end HeaderRelay.Ledger
