import HeaderRelay.Proofs.Legibility
import HeaderRelay.Proofs.Loading
import HeaderRelay.Proofs.Wire

/-
Settings that are saved and loaded again. Everything but the multiplier of a growing schedule comes
back as it was; a multiplier comes back as what its written form is read as, and one without a
written form makes the file unreadable.
-/

set_option autoImplicit false

namespace HeaderRelay

namespace Json

variable {members : List (String × Json)}

/-- A record within some levels of nesting is read by its names. -/
theorem recordOf?_placed (distinct : (members.map Prod.fst).Nodup) (room : Nat)
    (names : List String) :
    Document.recordOf? (⟨record members, room + 1⟩ : Placed) names =
      some (.named (members.map fun m => (m.1, ⟨m.2, room⟩))) := by
  have form : Document.form? (⟨record members, room + 1⟩ : Placed) =
      some (.named (members.map fun m => (m.1, ⟨m.2, room⟩))) := by
    show (record members).form?.map (placeForm room) = _
    rw [form?_record]
    rfl
  rw [Document.recordOf?, form, Option.filter_some, Form.admits_named, if_pos rfl]
  rwa [List.map_map]

theorem writable_real {x : Binary64} (canonical : x.Canonical) : (real x).Writable := by
  rw [real]
  split
  · rename_i l written
    exact Shortest.valid_literal? canonical written
  · trivial

theorem isReadable_real (x : Binary64) (room : Nat) :
    (real x).isReadable room = (real x).content?.isSome := by
  rw [real]
  split
  · rw [isReadable, content?, Option.isSome_map]
  · rfl

end Json

/-- A number as it is read from what is written for it. -/
def Binary64.reread? (x : Binary64) : Option Binary64 := (Json.real x).content?.bind Content.real?

/-! Parts. -/

namespace ChainSettings

theorem fields_nodup : fields.Nodup := by decide

theorem writable_toJson (s : ChainSettings) : s.toJson.Writable := by
  apply Json.writable_of_members
  simp [Json.text, Json.nat, Json.Writable, Literal.valid_ofNat]

theorem read?_toJson {s : ChainSettings} (fits : s.Fits) (room : Nat) :
    read? (⟨s.toJson, room + 1⟩ : Json.Placed) = some s := by
  have length := Literal.natural?_ofNat fits.epochLength
  have retention := Literal.natural?_ofNat fits.retentionEpochs
  have drift := Literal.natural?_ofNat fits.maxDrift
  have timeout := Literal.natural?_ofNat fits.timeout
  rw [read?, toJson, Json.recordOf?_placed (by exact fields_nodup)]
  show ((Literal.ofNat s.epochLength).natural?).bind _ = _
  rw [length]
  show ((Literal.ofNat s.retentionEpochs).natural?).bind _ = _
  rw [retention]
  show ((Literal.ofNat s.maxDrift).natural?).bind _ = _
  rw [drift]
  show ((Literal.ofNat s.timeout).natural?).bind _ = _
  rw [timeout]
  rfl

end ChainSettings

namespace LedgerSettings

theorem writable_toJson (s : LedgerSettings) : s.toJson.Writable := by
  apply Json.writable_of_members
  cases s.chainId with
  | none => simp [Json.text, Json.Writable]
  | some id => simp [Json.text, Json.nat, Json.Writable, Literal.valid_ofNat]

theorem fields_nodup : fields.Nodup := by decide

/-- A chain id that is left out is read as none. -/
theorem read?_toJson {s : LedgerSettings} (fits : s.Fits) (room : Nat) :
    read? (⟨s.toJson, room + 1⟩ : Json.Placed) = some s := by
  obtain ⟨url, address, keyPath, chainId⟩ := s
  cases chainId with
  | none =>
    have distinct : (fields.take 3).Nodup := by decide
    rw [read?, toJson, Json.recordOf?_placed (by exact distinct)]
    rfl
  | some id =>
    have natural := Literal.natural?_ofNat (fits id rfl)
    rw [read?, toJson, Json.recordOf?_placed (by exact fields_nodup)]
    show (((Literal.ofNat id).natural?).map some).bind _ = _
    rw [natural]
    rfl

end LedgerSettings

namespace Bus.Settings

theorem fields_nodup : fields.Nodup := by decide

theorem writable_toJson (s : Settings) : s.toJson.Writable := by
  apply Json.writable_of_members
  simp [Json.text, Json.nat, Json.Writable, Literal.valid_ofNat, Delivery.toJson]

theorem read?_toJson {s : Settings} (fits : s.Fits) (room : Nat) :
    read? (⟨s.toJson, room + 1⟩ : Json.Placed) = some s := by
  have delivery : Delivery.ofWord? s.delivery.word = some s.delivery := by
    cases s.delivery <;> rfl
  have delay := Literal.natural?_ofNat fits
  rw [read?, toJson, Json.recordOf?_placed (by exact fields_nodup)]
  show (Delivery.ofWord? s.delivery.word).bind _ = _
  rw [delivery]
  show ((Literal.ofNat s.reconnectDelay).natural?).bind _ = _
  rw [delay]
  rfl

end Bus.Settings

namespace ProverSettings

theorem fields_nodup : fields.Nodup := by decide

theorem writable_toJson (s : ProverSettings) : s.toJson.Writable := by
  apply Json.writable_of_members
  simp [Json.text, Json.nat, Json.Writable, Literal.valid_ofNat]

theorem read?_toJson {s : ProverSettings} (fits : s.Fits) (room : Nat) :
    read? (⟨s.toJson, room + 1⟩ : Json.Placed) = some s := by
  have timeout := Literal.natural?_ofNat fits
  rw [read?, toJson, Json.recordOf?_placed (by exact fields_nodup)]
  show ((Literal.ofNat s.timeout).natural?).bind _ = _
  rw [timeout]
  rfl

end ProverSettings

namespace Binary64

variable {x y : Binary64} {l : Literal}

theorem reread?_of_written (written : Shortest.literal? x = some l) :
    x.reread? = l.numeral?.map Numeral.toBinary64 := by
  rw [reread?, Json.real, written]
  dsimp only
  rw [Json.content?]
  cases l.numeral? <;> rfl

theorem reread?_of_unwritten (unwritten : Shortest.literal? x = none) : x.reread? = none := by
  rw [reread?, Json.real, unwritten]
  rfl

/-- Numbers that are written alike, other than by leaving them out, are the same. -/
theorem eq_of_real (canonical : x.Canonical) (canonical' : y.Canonical)
    (read : x.reread? = some y) (same : Json.real y = Json.real x) : y = x := by
  cases written : Shortest.literal? x with
  | none =>
    rw [reread?_of_unwritten written] at read
    cases read
  | some l =>
    rw [Json.real, Json.real, written] at same
    cases written' : Shortest.literal? y with
    | none =>
      rw [written'] at same
      cases same
    | some l' =>
      rw [written'] at same
      cases same
      exact Shortest.literal?_injective canonical' canonical written' written

end Binary64

namespace Retry

/-- A schedule as it is read from what is written for it. -/
def Schedule.reread? : Schedule → Option Schedule
  | .fixed delay => some (.fixed delay)
  | .exponential initial multiplier max =>
      multiplier.reread?.map fun multiplier => .exponential initial multiplier max

/-- Whether a schedule is read back as it was: if it has a multiplier, that must be. -/
def Schedule.Lasts : Schedule → Prop
  | .fixed _ => True
  | .exponential _ multiplier _ => multiplier.reread? = some multiplier

/-- Whether the multiplier of a schedule, if it has one, is written with digits of 53 bits and a
power of ten up to the twenty-second. -/
def Schedule.IsShort : Schedule → Prop
  | .fixed _ => True
  | .exponential _ multiplier _ =>
      ∃ l, Shortest.literal? multiplier = some l ∧ l.significand < 2 ^ 53 ∧ l.power.natAbs ≤ 22

/-- Whether a schedule has a multiplier that is infinite or no number. -/
def Schedule.IsEndless : Schedule → Prop
  | .fixed _ => False
  | .exponential _ multiplier _ => multiplier.isInfinite = true ∨ multiplier = .nan

theorem Schedule.lasts_of_isShort {s : Schedule} (fits : s.Fits) (short : s.IsShort) : s.Lasts := by
  cases s with
  | fixed delay => trivial
  | exponential initial multiplier max =>
    obtain ⟨l, written, bits, small⟩ := short
    rw [Lasts, Binary64.reread?_of_written written,
      Binary64.numeral?_literal? fits.2.1 written bits small]
    rfl

theorem Schedule.reread?_of_isEndless {s : Schedule} (endless : s.IsEndless) :
    s.reread? = none := by
  cases s with
  | fixed delay => cases endless
  | exponential initial multiplier max =>
    have unwritten : Shortest.literal? multiplier = none := by
      rcases endless with infinite | rfl
      · cases multiplier with
        | infinite negative => rfl
        | nan => cases infinite
        | finite negative m e => cases infinite
      · rfl
    rw [reread?, Binary64.reread?_of_unwritten unwritten]
    rfl

theorem Schedule.writable_toJson {s : Schedule} (fits : s.Fits) : s.toJson.Writable := by
  cases s with
  | fixed delay =>
    apply Json.writable_of_members
    simp [Json.text, Json.nat, Json.Writable, Literal.valid_ofNat]
  | exponential initial multiplier max =>
    have real := Json.writable_real fits.2.1
    apply Json.writable_of_members
    simp [Json.text, Json.nat, Json.Writable, Literal.valid_ofNat, real]

theorem Schedule.read?_toJson {s : Schedule} (fits : s.Fits) (room : Nat) :
    read? (⟨s.toJson, room + 1⟩ : Json.Placed) = s.reread? := by
  cases s with
  | fixed delay =>
    have numeral := Literal.numeral?_ofNat fits
    have readable : (toJson (.fixed delay)).isReadable (room + 1) = true := by
      simp [toJson, Json.record, Json.text, Json.nat, Json.isReadable, Json.membersReadable, numeral]
    have content : (toJson (.fixed delay)).content? = some (.table
        [(.text "kind", .text "fixed"), (.text "delay-ms", .number (.natural delay))]) := by
      simp [toJson, Json.record, Json.text, Json.nat, Json.content?, Json.memberContents?, numeral]
    rw [read?]
    simp only [Document.variant?]
    rw [if_pos readable, content]
    rfl
  | exponential initial multiplier max =>
    have first := Literal.numeral?_ofNat fits.1
    have last := Literal.numeral?_ofNat fits.2.2
    have readable : (toJson (.exponential initial multiplier max)).isReadable (room + 1) =
        (Json.real multiplier).content?.isSome := by
      simp [toJson, Json.record, Json.text, Json.nat, Json.isReadable, Json.membersReadable, first,
        last, Json.isReadable_real]
    rw [read?, reread?, Binary64.reread?]
    simp only [Document.variant?]
    rw [readable]
    cases written : (Json.real multiplier).content? with
    | none => rfl
    | some c =>
      have content : (toJson (.exponential initial multiplier max)).content? = some (.table
          [(.text "kind", .text "exponential"), (.text "initial-ms", .number (.natural initial)),
            (.text "multiplier", c), (.text "max-ms", .number (.natural max))]) := by
        simp [toJson, Json.record, Json.text, Json.nat, Json.content?, Json.memberContents?, first,
          last, written]
      rw [Option.isSome_some, if_pos rfl, content]
      -- the initial and the greatest delay are read back; what is left depends on the multiplier
      show c.real?.bind _ = c.real?.map _
      cases c.real? <;> rfl

/-- A policy as it is read from what is written for it. -/
def Policy.reread? (p : Policy) : Option Policy :=
  p.schedule.reread?.map fun schedule => { p with schedule }

theorem Policy.fields_nodup : Policy.fields.Nodup := by decide

theorem Policy.writable_toJson {p : Policy} (fits : p.Fits) : p.toJson.Writable := by
  have schedule := Schedule.writable_toJson fits.schedule
  have attempts : (Json.orNull .nat p.maxAttempts).Writable := by
    cases p.maxAttempts with
    | none => trivial
    | some n => exact Literal.valid_ofNat n
  apply Json.writable_of_members
  simp [Json.text, Json.Writable, Scope.toJson, schedule, attempts]

theorem Policy.read?_toJson {p : Policy} (fits : p.Fits) (room : Nat) :
    read? (⟨p.toJson, room + 2⟩ : Json.Placed) = p.reread? := by
  have scope : Scope.ofWord? p.scope.word = some p.scope := by
    cases p.scope <;> rfl
  have attempts : Document.optional? (Document.naturalUpTo? mostAttempts)
      (⟨Json.orNull .nat p.maxAttempts, room + 1⟩ : Json.Placed) = some p.maxAttempts := by
    cases same : p.maxAttempts with
    | none => rfl
    | some n =>
      have small := fits.attempts n same
      have natural := Literal.natural?_ofNat (lt_of_le_of_lt small (by decide))
      show (((Literal.ofNat n).natural?).filter _).map _ = _
      rw [natural, Option.filter_some, if_pos (decide_eq_true small)]
      rfl
  rw [read?, toJson, Json.recordOf?_placed (by exact fields_nodup)]
  show (Scope.ofWord? p.scope.word).bind _ = _
  rw [scope]
  show (Schedule.read? (⟨p.schedule.toJson, room + 1⟩ : Json.Placed)).bind _ = _
  rw [Schedule.read?_toJson fits.schedule, reread?]
  cases p.schedule.reread? with
  | none => rfl
  | some schedule =>
    show (Document.optional? (Document.naturalUpTo? mostAttempts)
      (⟨Json.orNull .nat p.maxAttempts, room + 1⟩ : Json.Placed)).bind _ = _
    rw [attempts]
    rfl

end Retry

namespace Settings

/-- Settings as they are read from what is written for them. -/
def reread? (s : Settings) : Option Settings := s.retry.reread?.map fun retry => { s with retry }

theorem fields_nodup : fields.Nodup := by decide

theorem writable_toJson {s : Settings} (fits : s.Fits) : s.toJson.Writable := by
  have retry := Retry.Policy.writable_toJson fits.retry
  apply Json.writable_of_members
  simp [Json.nat, Json.Writable, Literal.valid_ofNat, s.chain.writable_toJson,
    s.ledger.writable_toJson, s.bus.writable_toJson, s.prover.writable_toJson, retry]

theorem read?_toJson {s : Settings} (fits : s.Fits) : read? (Json.top s.toJson) = s.reread? := by
  have natural := Literal.natural?_ofNat (lt_of_le_of_lt fits.port (by decide))
  have port : Document.naturalUpTo? greatestPort (⟨.nat s.port, 126⟩ : Json.Placed) =
      some s.port := by
    show ((Literal.ofNat s.port).natural?).filter _ = _
    rw [natural, Option.filter_some, if_pos (decide_eq_true fits.port)]
  rw [read?, Json.top, toJson, Json.deepest, Json.recordOf?_placed (by exact fields_nodup)]
  show (Document.naturalUpTo? greatestPort (⟨.nat s.port, 126⟩ : Json.Placed)).bind _ = _
  rw [port]
  show (ChainSettings.read? (⟨s.chain.toJson, 126⟩ : Json.Placed)).bind _ = _
  rw [ChainSettings.read?_toJson fits.chain]
  show (LedgerSettings.read? (⟨s.ledger.toJson, 126⟩ : Json.Placed)).bind _ = _
  rw [LedgerSettings.read?_toJson fits.ledger]
  show (Bus.Settings.read? (⟨s.bus.toJson, 126⟩ : Json.Placed)).bind _ = _
  rw [Bus.Settings.read?_toJson fits.bus]
  show (ProverSettings.read? (⟨s.prover.toJson, 126⟩ : Json.Placed)).bind _ = _
  rw [ProverSettings.read?_toJson fits.prover]
  show (Retry.Policy.read? (⟨s.retry.toJson, 126⟩ : Json.Placed)).bind _ = _
  rw [Retry.Policy.read?_toJson fits.retry, reread?]
  cases s.retry.reread? <;> rfl

theorem load_encode {path : String} {format : Format} (named : Format.ofPath path = format)
    (text : String) :
    load path (some (Utf8.encode text)) =
      (ofText? format text).elim (.error (.unparsable format path)) .ok := by
  subst named
  rw [load, Option.bind_some, Utf8.decode?_encode]
  dsimp only
  cases ofText? (.ofPath path) text <;> rfl

theorem load_saved {path : String} {s : Settings} (fits : s.Fits)
    (json : Format.ofPath path = .json) :
    load path (some (Utf8.encode s.text)) =
      s.reread?.elim (.error (.unparsable .json path)) .ok := by
  have read : ofText? .json s.text = s.reread? := by
    unfold ofText?
    rw [text, Json.ofString?_toLines (writable_toJson fits)]
    exact read?_toJson fits
  rw [load_encode json, read]

theorem reread?_of_schedule {s : Settings} (lost : s.retry.schedule.reread? = none) :
    s.reread? = none := by
  rw [reread?, Retry.Policy.reread?, lost]
  rfl

theorem eq_of_text {s again : Settings} (fits : s.Fits) (fits' : again.Fits)
    (reread : s.reread? = some again) (same : again.text = s.text) : again = s := by
  have json : again.toJson = s.toJson := by
    have back := Json.ofString?_toLines (writable_toJson fits')
    have back' := Json.ofString?_toLines (writable_toJson fits)
    rw [text, text] at same
    rw [same] at back
    exact Option.some.inj (back.symm.trans back')
  obtain ⟨port, chain, ledger, bus, prover, scope, schedule, attempts⟩ := s
  obtain ⟨policy, rereadPolicy, rfl⟩ := Option.map_eq_some_iff.mp reread
  obtain ⟨schedule', rereadSchedule, rfl⟩ := Option.map_eq_some_iff.mp rereadPolicy
  -- all but the schedule is read back as it was, so the texts can only differ in its multiplier
  cases schedule with
  | fixed delay =>
    cases rereadSchedule
    rfl
  | exponential initial x max =>
    obtain ⟨y, read, rfl⟩ := Option.map_eq_some_iff.mp rereadSchedule
    have real : Json.real y = Json.real x := by
      have deep := congrArg (fun v => ((v.get? "retry").bind (·.get? "backoff")).bind
        (·.get? "multiplier")) json
      exact Option.some.inj deep
    have value := Binary64.eq_of_real fits.retry.schedule.2.1 fits'.retry.schedule.2.1 read real
    rw [value]

/-- Settings are read back as they were just if their schedule is. -/
theorem reread?_eq_self_iff (s : Settings) : s.reread? = some s ↔ s.retry.schedule.Lasts := by
  obtain ⟨port, chain, ledger, bus, prover, scope, schedule, attempts⟩ := s
  have parts : reread? ⟨port, chain, ledger, bus, prover, ⟨scope, schedule, attempts⟩⟩ =
      schedule.reread?.map fun again =>
        ⟨port, chain, ledger, bus, prover, ⟨scope, again, attempts⟩⟩ := by
    rw [reread?, Retry.Policy.reread?, Option.map_map]
    rfl
  rw [parts, Option.map_eq_some_iff]
  cases schedule with
  | fixed delay => simp [Retry.Schedule.reread?, Retry.Schedule.Lasts]
  | exponential initial x max =>
    simp [Retry.Schedule.reread?, Retry.Schedule.Lasts]

/-- The characters of settings whose schedule grows by the given factor. -/
def growingChars (multiplier : String) : List Char :=
  ["server-listen-port: 3000\n", "near:\n", "  primary-rpc-url: ", "http://primary\n",
    "  archival-rpc-url: ", "http://archival\n", "eth:\n", "  eth-rpc-url: http://eth\n",
    "  ledger-address: 0x", "11111111111111111111", "11111111111111111111\n",
    "  ledger-key-path: key\n", "bus:\n", "  nats-url: nats://bus\n", "prover:\n",
    "  epoch-prover-url: ", "http://prover\n", "retry:\n", "  backoff:\n",
    "    kind: exponential\n", "    initial-ms: 1000\n", "    multiplier: ", multiplier, "\n",
    "    max-ms: 60000\n"].flatMap String.toList

/-- A text with settings whose schedule grows by the given factor. -/
def growing (multiplier : String) : String := String.ofList (growingChars multiplier)

def growingBy (multiplier : Binary64) : Settings where
  port := 3000
  chain := ⟨"http://primary", "http://archival", 43200, 3, 20, 30⟩
  ledger := ⟨"http://eth", "0x1111111111111111111111111111111111111111", "key", none⟩
  bus := .standard "nats://bus"
  prover := ⟨"http://prover", 600⟩
  retry := ⟨.all, .exponential 1000 multiplier 60000, none⟩

/-- The node of a text given by its characters. -/
def nodeOf? (cs : List Char) : Option Yaml.Placed := do
  let tokens ← Yaml.tokens? cs
  match ← Yaml.Node.ofTokens? tokens with
  | none => return ⟨.empty .none, none, Yaml.Placed.deepest⟩
  | some node =>
      let (root, _) ← node.number? []
      return ⟨root, some root, Yaml.Placed.deepest⟩

/-- A text given by its characters is read without taking it apart into them again. -/
theorem load_growing {multiplier : String} {s : Settings}
    (reads : (nodeOf? (growingChars multiplier)).bind (fun p =>
      if p.hops Yaml.Placed.deepest shape ≤ Yaml.Placed.allowance p.root then read? p else none) =
        some s) :
    load "relayer.yaml" (some (Utf8.encode (growing multiplier))) = .ok s := by
  have yaml : Format.ofPath "relayer.yaml" = .yaml := by decide +kernel
  have node : Yaml.Placed.ofString? (growing multiplier) = nodeOf? (growingChars multiplier) := by
    rw [Yaml.Placed.ofString?, growing, String.toList_ofList]
    rfl
  have read : ofText? .yaml (growing multiplier) = some s := by
    unfold ofText?
    rw [Yaml.Placed.readText?, node]
    exact reads
  rw [load_encode yaml, read]
  rfl

/-- Settings loaded from any file can be saved, and the saved file is loaded as the same settings
just if the multiplier of a growing schedule lasts; no other setting can change. A multiplier lasts
if what is written for it has, without the point, digits of 53 bits and a power of ten up to the
twenty-second. One that is infinite or no number is not written, and the saved file cannot be
loaded. Settings that have changed are saved differently. -/
theorem saved_reloads {source path : String} {content : Option Bytes} {s : Settings}
    (loaded : load source content = .ok s) (place : isPlace path = true)
    (json : Format.ofPath path = .json) :
    ∃ bytes, save path s = .ok bytes ∧
      load path (some bytes) = s.reread?.elim (.error (.unparsable .json path)) .ok ∧
      (load path (some bytes) = .ok s ↔ s.retry.schedule.Lasts) ∧
      (s.retry.schedule.IsShort → s.retry.schedule.Lasts) ∧
      (s.retry.schedule.IsEndless → load path (some bytes) = .error (.unparsable .json path)) ∧
      ∀ again, load path (some bytes) = .ok again → (save path again = .ok bytes ↔ again = s) := by
  have fits := fits_load loaded
  have saved : ∀ t : Settings, save path t = .ok (Utf8.encode t.text) := fun t => if_pos place
  have reload := load_saved fits json
  refine ⟨_, saved s, reload, ?_, Retry.Schedule.lasts_of_isShort fits.retry.schedule, ?_, ?_⟩
  · rw [reload, ← reread?_eq_self_iff]
    cases s.reread? with
    | none => exact ⟨nofun, nofun⟩
    | some again => exact ⟨fun same => congrArg some (Except.ok.inj same),
        fun same => congrArg Except.ok (Option.some.inj same)⟩
  · intro endless
    rw [reload, reread?_of_schedule (Retry.Schedule.reread?_of_isEndless endless)]
    rfl
  · intro again loadedAgain
    have fits' := fits_load loadedAgain
    rw [reload] at loadedAgain
    rw [saved]
    constructor
    · intro same
      have text : again.text = s.text := by
        have decoded := congrArg Utf8.decode? (Except.ok.inj same)
        rw [Utf8.decode?_encode, Utf8.decode?_encode] at decoded
        exact Option.some.inj decoded
      cases reread : s.reread? with
      | none =>
        rw [reread] at loadedAgain
        cases loadedAgain
      | some other =>
        rw [reread] at loadedAgain
        cases loadedAgain
        exact eq_of_text fits fits' reread text
    · rintro rfl
      rfl

theorem saved_reloads_elevenTenths :
    load "relayer.yaml" (some (Utf8.encode (growing "1.1"))) =
        .ok (growingBy (.finite false 4953959590107546 (-52))) ∧
      ∃ bytes, save "saved.json" (growingBy (.finite false 4953959590107546 (-52))) = .ok bytes ∧
        load "saved.json" (some bytes) =
          .ok (growingBy (.finite false 4953959590107546 (-52))) := by
  have loaded : load "relayer.yaml" (some (Utf8.encode (growing "1.1"))) =
      .ok (growingBy (.finite false 4953959590107546 (-52))) := load_growing (by decide +kernel)
  have place : isPlace "saved.json" = true := by decide +kernel
  have json : Format.ofPath "saved.json" = .json := by decide +kernel
  obtain ⟨bytes, saved, -, lasts, short, -⟩ := saved_reloads loaded place json
  refine ⟨loaded, bytes, saved, lasts.mpr (short ?_)⟩
  exact ⟨⟨false, ['1'], some ['1'], none⟩, by decide +kernel⟩

/-- An infinite multiplier is saved as null, which cannot be loaded as a multiplier; and the JSON
reader rounds twice, so that a multiplier of seventeen digits can be loaded as its neighbour. -/
theorem saved_multiplier_lost :
    (load "relayer.yaml" (some (Utf8.encode (growing ".inf"))) =
        .ok (growingBy (.infinite false)) ∧
      ∃ bytes, save "saved.json" (growingBy (.infinite false)) = .ok bytes ∧
        load "saved.json" (some bytes) = .error (.unparsable .json "saved.json")) ∧
    (load "relayer.yaml" (some (Utf8.encode (growing "1.0000000000000007"))) =
        .ok (growingBy (.finite false 4503599627370499 (-52))) ∧
      ∃ bytes, save "saved.json" (growingBy (.finite false 4503599627370499 (-52))) = .ok bytes ∧
        load "saved.json" (some bytes) =
          .ok (growingBy (.finite false 4503599627370500 (-52)))) := by
  have place : isPlace "saved.json" = true := by decide +kernel
  have json : Format.ofPath "saved.json" = .json := by decide +kernel
  have endless : load "relayer.yaml" (some (Utf8.encode (growing ".inf"))) =
      .ok (growingBy (.infinite false)) := load_growing (by decide +kernel)
  have long : load "relayer.yaml" (some (Utf8.encode (growing "1.0000000000000007"))) =
      .ok (growingBy (.finite false 4503599627370499 (-52))) := load_growing (by decide +kernel)
  refine ⟨⟨endless, _, if_pos place, ?_⟩, long, _, if_pos place, ?_⟩
  · rw [load_saved (fits_load endless) json]
    rfl
  · rw [load_saved (fits_load long) json]
    decide +kernel

end Settings

end HeaderRelay
