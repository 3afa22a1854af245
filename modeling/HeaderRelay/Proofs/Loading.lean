import HeaderRelay.Proofs.Rounding
import HeaderRelay.Settings.File

set_option autoImplicit false

namespace HeaderRelay

open Binary64 (Canonical)

/-! Numerals. -/

/-- A natural number of 64 bits, or a rounded number. -/
def Numeral.Fits : Numeral → Prop
  | .natural n => n < 2 ^ 64
  | .negative _ => True
  | .real x => x.Canonical

theorem Numeral.canonical_toBinary64 {n : Numeral} (fits : n.Fits) : n.toBinary64.Canonical := by
  cases n with
  | natural n => exact Binary64.canonical_ofNat n
  | negative n =>
    rw [toBinary64]
    split
    · exact Binary64.canonical_ofNat 0
    · exact Binary64.canonical_neg (Binary64.canonical_ofNat n)
  | real x => exact fits

namespace Literal

variable {l : Literal} {x : Binary64}

theorem canonical_nearest? (read : l.nearest? = some x) : x.Canonical := by
  rw [nearest?] at read
  dsimp only at read
  split_ifs at read
  · cases read
    exact Binary64.canonical_zero _
  · cases read
    exact Binary64.canonical_ofScaled _ _ _

theorem canonical_scale {fuel : Nat} {y : Binary64} {k : Int} (canonical : y.Canonical)
    (read : scale fuel y k = some x) : x.Canonical := by
  induction fuel generalizing y k with
  | zero =>
    rw [scale] at read
    dsimp only at read
    split_ifs at read <;> cases read
    · exact Binary64.canonical_mul _ _
    · exact canonical
    · exact Binary64.canonical_div _ _
    · exact canonical
    · exact canonical
  | succ fuel ih =>
    rw [scale] at read
    dsimp only at read
    split_ifs at read
    · cases read
      exact Binary64.canonical_mul _ _
    · cases read
      exact canonical
    · cases read
      exact Binary64.canonical_div _ _
    · cases read
      exact canonical
    · exact ih (Binary64.canonical_div _ _) read

theorem canonical_real? {negative : Bool} {significand : Nat} {k : Int}
    (read : real? negative significand k = some x) : x.Canonical := by
  obtain ⟨y, scaled, rfl⟩ := Option.map_eq_some_iff.mp read
  have canonical := canonical_scale (Binary64.canonical_ofNat significand) scaled
  split
  · exact Binary64.canonical_neg canonical
  · exact canonical

theorem canonical_scaled? {negative : Bool} {significand : Nat} {start : Int}
    {exponent : Option (Bool × List Char)}
    (read : scaled? negative significand start exponent = some x) : x.Canonical := by
  cases exponent with
  | none => exact canonical_real? read
  | some pair =>
    obtain ⟨down, ds⟩ := pair
    rw [scaled?] at read
    split_ifs at read
    · cases read
      exact Binary64.canonical_zero _
    · exact canonical_real? read
    · exact canonical_real? read

/-- Digits are only taken as long as they fit. -/
theorem scanWhole_le (ds : List Char) : (scanWhole ds).significand ≤ Binary64.greatestWord := by
  have pushed : ∀ s : Scan, s.significand ≤ Binary64.greatestWord →
      (ds.foldl Scan.pushWhole s).significand ≤ Binary64.greatestWord := by
    induction ds with
    | nil => exact fun s fits => fits
    | cons c ds ih =>
      intro s fits
      refine ih _ ?_
      rw [Scan.pushWhole]
      split
      · exact fits
      · rename_i within
        simp only [Bool.or_eq_true, decide_eq_true_eq, not_or] at within
        exact Nat.le_of_not_lt within.2
  exact pushed _ (Nat.zero_le _)

theorem fits_numeral? {n : Numeral} (read : l.numeral? = some n) : n.Fits := by
  have small := scanWhole_le l.whole
  have greatest : Binary64.greatestWord = 2 ^ 64 - 1 := rfl
  rw [numeral?] at read
  dsimp only at read
  split at read
  · split_ifs at read
    · obtain ⟨x, scaled, rfl⟩ := Option.map_eq_some_iff.mp read
      exact canonical_scaled? scaled
    · cases read
      show _ < 2 ^ 64
      omega
    · cases read
      trivial
    · cases read
      exact Binary64.canonical_neg (Binary64.canonical_ofNat _)
  · obtain ⟨x, scaled, rfl⟩ := Option.map_eq_some_iff.mp read
    exact canonical_scaled? scaled

theorem natural?_lt {n : Nat} (read : l.natural? = some n) : n < 2 ^ 64 := by
  rw [natural?] at read
  split at read
  · rename_i same
    cases read
    exact fits_numeral? same
  · cases read

end Literal

/-! Untyped values. -/

namespace Content

/-- A value that is no number, or one that fits. -/
def Fits (v : Content) : Prop := ∀ n, v = .number n → n.Fits

/-- A value whose parts fit. -/
def PartsFit : Content → Prop
  | .list items => ∀ v ∈ items, v.Fits
  | .table members => ∀ m ∈ members, m.2.Fits
  | _ => True

variable {v : Content}

theorem Fits.natural? {n : Nat} (fits : v.Fits) (read : v.natural? = some n) : n < 2 ^ 64 := by
  unfold Content.natural? at read
  split at read
  · cases read
    exact fits _ rfl
  · cases read
    decide
  · cases read

theorem Fits.real? {x : Binary64} (fits : v.Fits) (read : v.real? = some x) : x.Canonical := by
  unfold Content.real? at read
  split at read
  · cases read
    exact Numeral.canonical_toBinary64 (fits _ rfl)
  · cases read

end Content

/-! Fields. -/

namespace Form

variable {α : Type} {P : α → Prop} {form : Form α} {members : List (String × α)} {name : String}
  {a : α}

def All (P : α → Prop) : Form α → Prop
  | .named members => ∀ m ∈ members, P m.2
  | .listed values => ∀ a ∈ values, P a

theorem mem_of_mem_under (member : a ∈ under members name) : ∃ key, (key, a) ∈ members := by
  obtain ⟨⟨key, b⟩, member, taken⟩ := List.mem_filterMap.mp member
  dsimp only at taken
  split at taken
  · cases taken
    exact ⟨key, member⟩
  · cases taken

theorem All.given {index : Nat} (all : form.All P) (given : form.field index name = .given a) :
    P a := by
  cases form with
  | named members =>
    rw [field] at given
    split at given
    · cases given
    · rename_i b rest same
      cases given
      obtain ⟨key, member⟩ := mem_of_mem_under (same ▸ List.mem_cons_self)
      exact all _ member
  | listed values =>
    rw [field] at given
    split at given
    · rename_i b found
      cases given
      exact all _ (List.mem_of_getElem? found)
    · cases given

end Form

namespace Slot

variable {α β : Type} {slot : Slot α} {read : α → Option β} {b default : β}

theorem of_required (done : slot.required read = some b) : ∃ a, slot = .given a ∧ read a = some b := by
  cases slot with
  | given a => exact ⟨a, rfl, done⟩
  | unnamed => cases done
  | beyond => cases done

theorem of_defaulted {P : β → Prop} (done : slot.defaulted default read = some b)
    (standard : P default) (reads : ∀ a, read a = some b → P b) : P b := by
  cases slot with
  | given a => exact reads a done
  | unnamed =>
    cases done
    exact standard
  | beyond =>
    cases done
    exact standard

end Slot

namespace Retry

/-- The numbers of a schedule are of 64 bits or rounded. -/
def Schedule.Fits : Schedule → Prop
  | .fixed delay => delay < 2 ^ 64
  | .exponential initial multiplier max =>
      initial < 2 ^ 64 ∧ multiplier.Canonical ∧ max < 2 ^ 64

end Retry

namespace Content

variable {v : Content}

theorem PartsFit.named? {fields : List String} {members : List (Content × Content)}
    {found : List (String × Content)} (fits : ∀ m ∈ members, m.2.Fits)
    (read : Content.named? fields members = some found) : ∀ m ∈ found, m.2.Fits := by
  induction members generalizing found with
  | nil =>
    cases read
    simp
  | cons m members ih =>
    obtain ⟨key, value⟩ := m
    rw [Content.named?] at read
    split at read
    · obtain ⟨rest, more, rfl⟩ := Option.map_eq_some_iff.mp read
      have first := fits _ List.mem_cons_self
      have others := ih (fun m member => fits m (List.mem_cons_of_mem _ member)) more
      exact List.forall_mem_cons.mpr ⟨first, others⟩
    · cases read

theorem PartsFit.recordOf? {fields : List String} {form : Form Content} (fits : v.PartsFit)
    (read : v.recordOf? fields = some form) : form.All Fits := by
  unfold Content.recordOf? at read
  split at read
  · obtain ⟨same, -⟩ := Option.filter_eq_some_iff.mp read
    cases same
    exact fits
  · obtain ⟨same, -⟩ := Option.filter_eq_some_iff.mp read
    obtain ⟨found, named, rfl⟩ := Option.map_eq_some_iff.mp same
    exact PartsFit.named? fits named
  · cases read

/-- What tells the kind is taken away, the other parts stay. -/
theorem PartsFit.variant? {name kind : String} {body : Content} (fits : v.PartsFit)
    (read : v.variant? name = some (kind, body)) : body.PartsFit := by
  unfold Content.variant? at read
  split at read
  · cases read
    exact fun v member => fits v (List.mem_cons_of_mem _ member)
  · split at read
    · cases read
      exact fun m member => fits m (List.mem_of_mem_filter member)
    · cases read
  · cases read

theorem PartsFit.ofKind? {kind : String} {s : Retry.Schedule} (fits : v.PartsFit)
    (read : Retry.Schedule.ofKind? kind v = some s) : s.Fits := by
  rw [Retry.Schedule.ofKind?] at read
  split_ifs at read
  · simp only [Option.bind_eq_bind, Option.bind_eq_some_iff] at read
    obtain ⟨form, record, delay, given, same⟩ := read
    have all := fits.recordOf? record
    obtain ⟨a, at0, natural⟩ := Slot.of_required given
    cases same
    exact (all.given at0).natural? natural
  · simp only [Option.bind_eq_bind, Option.bind_eq_some_iff] at read
    obtain ⟨form, record, initial, given, multiplier, given', max, given'', same⟩ := read
    have all := fits.recordOf? record
    obtain ⟨a, at0, natural⟩ := Slot.of_required given
    obtain ⟨b, at1, real⟩ := Slot.of_required given'
    obtain ⟨c, at2, natural'⟩ := Slot.of_required given''
    cases same
    exact ⟨(all.given at0).natural? natural, (all.given at1).real? real,
      (all.given at2).natural? natural'⟩

end Content

/-! Settings. -/

namespace Document

variable {α β : Type} [Document α] {a : α}

theorem le_of_naturalUpTo? {greatest n : Nat} (read : naturalUpTo? greatest a = some n) :
    n ≤ greatest := by
  obtain ⟨-, small⟩ := Option.filter_eq_some_iff.mp read
  exact of_decide_eq_true small

theorem of_optional? {P : β → Prop} {read : α → Option β} {b? : Option β}
    (done : optional? read a = some b?) (reads : ∀ b, read a = some b → P b) : ∀ b ∈ b?, P b := by
  rw [optional?] at done
  split at done
  · split at done
    · cases done
      simp
    · obtain ⟨b, same, rfl⟩ := Option.map_eq_some_iff.mp done
      rintro _ ⟨⟩
      exact reads b same
  · cases done

end Document

/-- A format whose numbers are of 64 bits or rounded. -/
class Measured (α : Type) [Document α] : Prop where
  natural {a : α} {n : Nat} : Document.natural? a = some n → n < 2 ^ 64
  variant {name kind : String} {a : α} {body : Content} :
    Document.variant? name a = some (kind, body) → body.PartsFit

/-- The numbers of a policy are of 64 bits or rounded, and the number of attempts of 32 bits. -/
structure Retry.Policy.Fits (p : Retry.Policy) : Prop where
  schedule : p.schedule.Fits
  attempts : ∀ n ∈ p.maxAttempts, n ≤ mostAttempts

structure ChainSettings.Fits (s : ChainSettings) : Prop where
  epochLength : s.epochLength < 2 ^ 64
  retentionEpochs : s.retentionEpochs < 2 ^ 64
  maxDrift : s.maxDrift < 2 ^ 64
  timeout : s.timeout < 2 ^ 64

/-- The chain id is of 64 bits, if there is one. -/
def LedgerSettings.Fits (s : LedgerSettings) : Prop := ∀ n ∈ s.chainId, n < 2 ^ 64

def Bus.Settings.Fits (s : Bus.Settings) : Prop := s.reconnectDelay < 2 ^ 64

def ProverSettings.Fits (s : ProverSettings) : Prop := s.timeout < 2 ^ 64

/-- The numbers of settings are in range. -/
structure Settings.Fits (s : Settings) : Prop where
  port : s.port ≤ greatestPort
  chain : s.chain.Fits
  ledger : s.ledger.Fits
  bus : s.bus.Fits
  prover : s.prover.Fits
  retry : s.retry.Fits

section

variable {α : Type} [Document α] [Measured α] {a : α}

theorem Document.lt_of_defaulted {slot : Slot α} {n default : Nat}
    (done : slot.defaulted default natural? = some n) (small : default < 2 ^ 64) : n < 2 ^ 64 :=
  Slot.of_defaulted (P := fun n => n < 2 ^ 64) done small fun _ => Measured.natural

open Document (lt_of_defaulted)

theorem Retry.Schedule.fits_read? {s : Retry.Schedule} (read : read? a = some s) : s.Fits := by
  obtain ⟨⟨kind, body⟩, variant, made⟩ := Option.bind_eq_some_iff.mp read
  exact (Measured.variant variant).ofKind? made

theorem Retry.Policy.fits_read? {p : Retry.Policy} (read : read? a = some p) : p.Fits := by
  rw [Retry.Policy.read?] at read
  simp only [Option.bind_eq_bind, Option.bind_eq_some_iff] at read
  obtain ⟨form, -, scope, -, schedule, readSchedule, attempts, readAttempts, same⟩ := read
  cases same
  have standard : Schedule.standard.Fits := (by decide : 5000 < 2 ^ 64)
  have none : ∀ n ∈ (none : Option Nat), n ≤ mostAttempts := by
    intro n absent
    cases absent
  exact {
    schedule := Slot.of_defaulted readSchedule standard fun _ => Schedule.fits_read?
    attempts := Slot.of_defaulted (P := fun b? => ∀ n ∈ b?, n ≤ mostAttempts) readAttempts none
      fun _ present => Document.of_optional? present fun _ => Document.le_of_naturalUpTo? }

theorem ChainSettings.fits_read? {s : ChainSettings} (read : read? a = some s) : s.Fits := by
  rw [ChainSettings.read?] at read
  simp only [Option.bind_eq_bind, Option.bind_eq_some_iff] at read
  obtain ⟨form, -, primaryUrl, -, archivalUrl, -, epochLength, readLength, retention, readRetention,
    drift, readDrift, timeout, readTimeout, same⟩ := read
  cases same
  exact {
    epochLength := lt_of_defaulted readLength (by decide)
    retentionEpochs := lt_of_defaulted readRetention (by decide)
    maxDrift := lt_of_defaulted readDrift (by decide)
    timeout := lt_of_defaulted readTimeout (by decide) }

theorem LedgerSettings.fits_read? {s : LedgerSettings} (read : read? a = some s) : s.Fits := by
  rw [LedgerSettings.read?] at read
  simp only [Option.bind_eq_bind, Option.bind_eq_some_iff] at read
  obtain ⟨form, -, url, -, address, -, keyPath, -, chainId, readId, same⟩ := read
  cases same
  have none : ∀ n ∈ (none : Option Nat), n < 2 ^ 64 := by
    intro n absent
    cases absent
  exact Slot.of_defaulted (P := fun b? => ∀ n ∈ b?, n < 2 ^ 64) readId none
    fun _ present => Document.of_optional? present fun _ => Measured.natural

theorem Bus.Settings.fits_read? {s : Bus.Settings} (read : read? a = some s) : s.Fits := by
  rw [Bus.Settings.read?] at read
  simp only [Option.bind_eq_bind, Option.bind_eq_some_iff] at read
  obtain ⟨form, -, url, -, taskSubject, -, taskStream, -, resultSubject, -, resultStream, -,
    delivery, -, consumer, -, delay, readDelay, same⟩ := read
  cases same
  exact lt_of_defaulted readDelay (by decide)

theorem ProverSettings.fits_read? {s : ProverSettings} (read : read? a = some s) : s.Fits := by
  rw [ProverSettings.read?] at read
  simp only [Option.bind_eq_bind, Option.bind_eq_some_iff] at read
  obtain ⟨form, -, url, -, timeout, readTimeout, same⟩ := read
  cases same
  exact lt_of_defaulted readTimeout (by decide)

theorem Settings.fits_read? {s : Settings} (read : read? a = some s) : s.Fits := by
  rw [Settings.read?] at read
  simp only [Option.bind_eq_bind, Option.bind_eq_some_iff] at read
  obtain ⟨form, -, port, readPort, chain, readChain, ledger, readLedger, bus, readBus, prover,
    readProver, retry, readRetry, same⟩ := read
  cases same
  obtain ⟨_, -, portRead⟩ := Slot.of_required readPort
  obtain ⟨_, -, chainRead⟩ := Slot.of_required readChain
  obtain ⟨_, -, ledgerRead⟩ := Slot.of_required readLedger
  obtain ⟨_, -, busRead⟩ := Slot.of_required readBus
  obtain ⟨_, -, proverRead⟩ := Slot.of_required readProver
  have standard : Retry.Policy.standard.Fits := by
    refine ⟨(by decide : 5000 < 2 ^ 64), fun n absent => ?_⟩
    cases absent
  exact {
    port := Document.le_of_naturalUpTo? portRead
    chain := ChainSettings.fits_read? chainRead
    ledger := LedgerSettings.fits_read? ledgerRead
    bus := Bus.Settings.fits_read? busRead
    prover := ProverSettings.fits_read? proverRead
    retry := Slot.of_defaulted readRetry standard fun _ => Retry.Policy.fits_read? }

end

/-! Formats. -/

namespace Json

theorem fits_content? {v : Json} {c : Content} (read : v.content? = some c) : c.Fits := by
  rintro n rfl
  cases v with
  | null => cases read
  | bool b => cases read
  | number l =>
    obtain ⟨m, numeral, same⟩ := Option.map_eq_some_iff.mp read
    cases same
    exact Literal.fits_numeral? numeral
  | string s =>
    obtain ⟨text, -, same⟩ := Option.map_eq_some_iff.mp read
    cases same
  | array items =>
    obtain ⟨cs, -, same⟩ := Option.map_eq_some_iff.mp read
    cases same
  | object members =>
    obtain ⟨cs, -, same⟩ := Option.map_eq_some_iff.mp read
    cases same

theorem fits_contents? {items : List Json} {cs : List Content} (read : contents? items = some cs) :
    ∀ c ∈ cs, c.Fits := by
  induction items generalizing cs with
  | nil =>
    cases read
    simp
  | cons v items ih =>
    rw [contents?] at read
    split at read
    · rename_i c rest first others
      cases read
      exact List.forall_mem_cons.mpr ⟨fits_content? first, ih others⟩
    · cases read

theorem fits_memberContents? {members : List (Option String × Json)}
    {cs : List (Content × Content)} (read : memberContents? members = some cs) :
    ∀ c ∈ cs, c.2.Fits := by
  induction members generalizing cs with
  | nil =>
    cases read
    simp
  | cons m members ih =>
    obtain ⟨name, v⟩ := m
    unfold memberContents? at read
    split at read
    · rename_i s c rest first others
      cases read
      exact List.forall_mem_cons.mpr ⟨fits_content? first, ih others⟩
    · cases read

theorem partsFit_content? {v : Json} {c : Content} (read : v.content? = some c) : c.PartsFit := by
  cases v with
  | null => cases read; trivial
  | bool b => cases read; trivial
  | number l =>
    obtain ⟨m, -, rfl⟩ := Option.map_eq_some_iff.mp read
    trivial
  | string s =>
    obtain ⟨text, -, rfl⟩ := Option.map_eq_some_iff.mp read
    trivial
  | array items =>
    obtain ⟨cs, parts, rfl⟩ := Option.map_eq_some_iff.mp read
    exact fits_contents? parts
  | object members =>
    obtain ⟨cs, parts, rfl⟩ := Option.map_eq_some_iff.mp read
    exact fits_memberContents? parts

instance : Measured Placed where
  natural := by
    rintro ⟨v, room⟩ n read
    cases v with
    | number l => exact Literal.natural?_lt read
    | _ => cases read
  variant := by
    intro name kind p body read
    simp only [Document.variant?] at read
    split at read
    · obtain ⟨c, whole, variant⟩ := Option.bind_eq_some_iff.mp read
      exact (partsFit_content? whole).variant? variant
    · cases read

end Json

namespace Yaml

namespace Scalar

variable {text : String}

theorem fits_integer? {n : Numeral} (read : integer? text = some (some n)) : n.Fits := by
  rw [integer?] at read
  have greatest : greatestNatural = 2 ^ 64 - 1 := rfl
  split at read
  · split_ifs at read
    · cases read
      show _ < 2 ^ 64
      omega
    · cases read
  · split_ifs at read
    · cases read
      trivial
    · cases read
  · cases read

theorem canonical_real? {x : Binary64} (read : real? text = some x) : x.Canonical := by
  rw [real?] at read
  split_ifs at read
  · cases read
    trivial
  · cases read
    trivial
  · cases read
    trivial
  · obtain ⟨l, -, nearest⟩ := Option.bind_eq_some_iff.mp read
    exact Literal.canonical_nearest? nearest

theorem fits_plain? {c : Content} (read : plain? text = some c) : c.Fits := by
  rintro n rfl
  rw [plain?] at read
  split at read
  · cases read
  · split at read
    · cases read
    · rename_i numeral _ integer
      obtain ⟨m, rfl, same⟩ := Option.map_eq_some_iff.mp read
      cases same
      exact fits_integer? integer
    · split at read
      · cases read
      · split at read
        · rename_i x real
          cases read
          exact canonical_real? real
        · cases read

theorem fits_tagged? {tag : Bytes} {style : Style} {c : Content}
    (read : tagged? tag style text = some c) : c.Fits := by
  rw [tagged?] at read
  split_ifs at read
  · obtain ⟨b, -, rfl⟩ := Option.map_eq_some_iff.mp read
    rintro n ⟨⟩
  · split at read
    · rename_i numeral integer
      cases read
      rintro n ⟨⟩
      exact fits_integer? integer
    · cases read
  · obtain ⟨x, real, rfl⟩ := Option.map_eq_some_iff.mp read
    rintro n ⟨⟩
    exact canonical_real? real
  · cases read
    rintro n ⟨⟩
  · exact fits_plain? read
  · cases read
    rintro n ⟨⟩

theorem fits_content? {tag : Option Bytes} {style : Style} {c : Content}
    (read : content? tag style text = some c) : c.Fits := by
  unfold content? at read
  split at read
  · cases read
  · split at read
    · exact fits_tagged? read
    · split at read
      · exact fits_plain? read
      · cases read
        rintro n ⟨⟩

theorem word64?_lt {tag : Option Bytes} {style : Style} {n : Nat}
    (read : word64? tag style text = some n) : n < 2 ^ 64 := by
  rw [word64?] at read
  split at read
  · obtain ⟨-, small⟩ := Option.filter_eq_some_iff.mp read
    have greatest : greatestNatural = 2 ^ 64 - 1 := rfl
    have := of_decide_eq_true small
    omega
  · cases read

end Scalar

namespace Placed

variable {β γ : Type}

/-- Every value that a reading can give has a property. -/
def Gives (P : β → Prop) (x : Patient β) : Prop := ∀ left b left', x left = some (b, left') → P b

theorem Gives.pure {P : β → Prop} {b : β} (holds : P b) : Gives P (pure b) := by
  intro left c left' same
  cases same
  exact holds

theorem Gives.failure (P : β → Prop) : Gives P failure := by
  intro left c left' same
  cases same

theorem Gives.bind {P : β → Prop} {Q : γ → Prop} {x : Patient β} {f : β → Patient γ}
    (first : Gives P x) (second : ∀ b, P b → Gives Q (f b)) : Gives Q (x >>= f) := by
  intro left c left' same
  obtain ⟨⟨b, between⟩, taken, rest⟩ := Option.bind_eq_some_iff.mp same
  exact second b (first left b between taken) between c left' rest

theorem Gives.anything (x : Patient β) : Gives (fun _ => True) x := fun _ _ _ _ => trivial

theorem Gives.lift {P : β → Prop} {b? : Option β} (holds : ∀ b, b? = some b → P b) :
    Gives P (liftM b?) := by
  intro left c left' same
  obtain ⟨b, found, rest⟩ := Option.bind_eq_some_iff.mp same
  cases rest
  exact holds _ found

theorem Gives.mapM {P : γ → Prop} {f : β → Patient γ} (each : ∀ b, Gives P (f b)) (bs : List β) :
    Gives (fun cs => ∀ c ∈ cs, P c) (bs.mapM f) := by
  induction bs with
  | nil =>
    rw [List.mapM_nil]
    exact .pure (by simp)
  | cons b bs ih =>
    rw [List.mapM_cons]
    refine (each b).bind fun c first => ih.bind fun cs others => .pure ?_
    exact List.forall_mem_cons.mpr ⟨first, others⟩

-- a list or a table is no number, whatever its parts are, so there is nothing to induct on
theorem gives_contentWithin (root : Node Nat) (levels : Nat) (node : Node Nat) :
    Gives Content.Fits (contentWithin root levels node) := by
  cases levels with
  | zero => exact .failure _
  | succ levels =>
    rw [contentWithin]
    refine (Gives.anything _).bind fun node _ => ?_
    split
    · exact .lift fun c => Scalar.fits_content?
    · split
      · exact .failure _
      · refine (Gives.anything _).bind fun items _ => .pure ?_
        rintro n ⟨⟩
    · split
      · exact .failure _
      · refine (Gives.anything _).bind fun members _ => .pure ?_
        rintro n ⟨⟩
    · exact .failure _

theorem gives_kindWithin (root node : Node Nat) : Gives Content.Fits (kindWithin root node) := by
  rw [kindWithin]
  refine (Gives.anything _).bind fun node _ => ?_
  split
  · refine .pure ?_
    rintro n ⟨⟩
  · exact .failure _

theorem gives_variantWithin (root : Node Nat) (room : Nat) (name : String) (node : Node Nat) :
    Gives Content.PartsFit (variantWithin root room name node) := by
  rw [variantWithin]
  refine (Gives.anything _).bind fun node _ => ?_
  split
  · split
    · exact .failure _
    · refine (gives_kindWithin _ _).bind fun kind first => ?_
      refine (Gives.mapM (gives_contentWithin root room) _).bind fun items others => .pure ?_
      exact List.forall_mem_cons.mpr ⟨first, others⟩
  · split
    · exact .failure _
    · refine Gives.bind (P := fun members : List (Content × Content) => ∀ m ∈ members, m.2.Fits)
        (.mapM ?_ _) fun members all => .pure (by exact all)
      rintro ⟨key, value⟩
      refine (Gives.anything _).bind fun key _ => ?_
      split
      · exact (gives_kindWithin _ _).bind fun value fits => .pure fits
      · exact (gives_contentWithin _ _ _).bind fun value fits => .pure fits
  · exact .failure _

instance : Measured Placed where
  natural := by
    intro p n read
    simp only [Document.natural?] at read
    split at read
    · exact Scalar.word64?_lt read
    · cases read
  variant := by
    intro name kind p body read
    simp only [Document.variant?, Placed.variant?] at read
    split at read
    · cases read
    · split at read
      · rename_i whole left run
        exact (gives_variantWithin _ _ _ _ _ _ _ run).variant? read
      · cases read

end Placed

end Yaml

/-- The numbers of settings read from a text are in range. -/
theorem Settings.fits_ofText? {format : Format} {text : String} {s : Settings}
    (read : ofText? format text = some s) : s.Fits := by
  unfold ofText? at read
  split at read
  · obtain ⟨p, -, patient⟩ := Option.bind_eq_some_iff.mp read
    split at patient
    · exact fits_read? patient
    · cases patient
  · obtain ⟨v, -, reads⟩ := Option.bind_eq_some_iff.mp read
    exact fits_read? reads

/-- The numbers of settings loaded from a file are in range. -/
theorem Settings.fits_load {path : String} {content : Option Bytes} {s : Settings}
    (loaded : load path content = .ok s) : s.Fits := by
  rw [load] at loaded
  split at loaded
  · cases loaded
  · split at loaded
    · cases loaded
    · rename_i read
      cases loaded
      exact fits_ofText? read

end HeaderRelay
