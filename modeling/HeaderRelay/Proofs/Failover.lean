import HeaderRelay.Proofs.Retention

set_option autoImplicit false

namespace HeaderRelay

def Event.failure? : Event relaying → Option Fault
  | ⟨.block _ _, some (.error fault)⟩ => some fault
  | ⟨.head _, some (.error fault)⟩ => some fault
  | _ => none

def Trace.failure? (trace : Trace relaying) : Option Fault := trace.findSome? Event.failure?

@[simp] theorem Trace.failure?_nil : Trace.failure? [] = none := rfl

@[simp] theorem Trace.failure?_cons (event : Event relaying) (trace : Trace relaying) :
    Trace.failure? (event :: trace) = event.failure?.or trace.failure? := by
  cases failed : event.failure? <;> simp [Trace.failure?, failed]

@[simp] theorem Event.failure?_block_ok (node : Endpoint) (id : BlockId) (sighting : Sighting) :
    Event.failure? ⟨.block node id, some (.ok sighting)⟩ = none := rfl

@[simp] theorem Event.failure?_block_error (node : Endpoint) (id : BlockId)
    (failure : Option Fault) :
    Event.failure? ⟨.block node id, failure.map .error⟩ = failure := by
  cases failure <;> rfl

@[simp] theorem Event.failure?_head_ok (node : Endpoint) (head : Nat) :
    Event.failure? ⟨.head node, some (.ok head)⟩ = none := rfl

@[simp] theorem Event.failure?_head_error (node : Endpoint) (failure : Option Fault) :
    Event.failure? ⟨.head node, failure.map .error⟩ = failure := by
  cases failure <;> rfl

@[simp] theorem Event.failure?_note (n : Note) (reply : Option (relaying.Reply (.note n))) :
    Event.failure? ⟨.note n, reply⟩ = none := rfl

namespace Node

/-- Exactly one of a hash and a height is given, and names a block. -/
def Sole (hash : Option String) (height : Option Nat) : BlockId → Prop
  | .hash s => hash = some s ∧ height = none
  | .height n => hash = none ∧ height = some n

/-- What the nodes have to say about a block. -/
structure Replies where
  primary : Except Fault Sighting
  archival : Except Fault Sighting
  /-- The newest height of the archival node. -/
  newest : Except Fault Nat

namespace Replies

/-- What the primary node answers when it is asked for a block, and what the archival node answers
when it is asked right after that. -/
def of {σ : Type} (answer : (call : Call) → σ → call.Answer × σ) (id : BlockId) (s : σ) :
    Replies :=
  let t := (answer (.block .primary id) s).2
  ⟨(answer (.block .primary id) s).1, (answer (.block .archival id) t).1,
    (answer (.head .archival) t).1⟩

/-- The primary node has a block of a height, and the newest height is known. -/
def Measured (replies : Replies) (height head : Nat) : Prop :=
  ∃ block, replies.primary = .ok (.found block) ∧ block.height = height ∧
    replies.newest = .ok head

/-- What the archival node is asked, once the primary node has answered. -/
def second (replies : Replies) (id : BlockId) : List Call :=
  match replies.primary with
  | .ok (.found _) => [.head .archival]
  | .ok (.absent .unknown) => [.block .archival id]
  | _ => []

end Replies

/-- The rule by which a node is selected for a block, given what the nodes have to say about it. -/
structure Failover (retention : Retention) (id : BlockId) (replies : Replies)
    (heard : Trace relaying) (ended : Except Fault Endpoint) : Prop where
  /-- The archival node serves what only it has, and what is older than the window. -/
  archival_iff : ended = .ok .archival ↔
    (replies.primary = .ok (.absent .unknown) ∧ ∃ block, replies.archival = .ok (.found block)) ∨
      ∃ height head, replies.Measured height head ∧
        height + retention.epochs * retention.epochLength < head
  /-- The primary node serves what it has within the window. -/
  primary_iff : ended = .ok .primary ↔
    ∃ height head, replies.Measured height head ∧
      head ≤ height + retention.epochs * retention.epochLength
  unknown_iff : heard.failure? = none →
    ((∃ detail, ended = .error ⟨.unknownBlock, detail⟩) ↔
      replies.primary = .ok (.absent .unknown) ∧ replies.archival = .ok (.absent .unknown))
  notSynced_iff : heard.failure? = none →
    ((∃ detail, ended = .error ⟨.notSynced, detail⟩) ↔
      replies.primary = .ok (.absent .notSynced) ∨
        (replies.primary = .ok (.absent .unknown) ∧
          replies.archival = .ok (.absent .notSynced)))
  /-- The first fault is reported, as an unexpected one if it is not of a kind that nodes have. -/
  failed : ∀ fault, heard.failure? = some fault →
    ended = .error (if fault.kind ∈ [.ledger, .bus, .prover, .storage] then
      ⟨.unexpected, fault.message⟩ else fault)
  /-- Each node is asked once at most, and the newest height only of a block that was found. -/
  asked : heard.calls = .block .primary id :: (replies.second id ++
    match ended with
    | .ok node => [.note (.selected node)]
    | .error _ => [])

variable {retention : Retention} {id : BlockId} {hash : Option String} {height : Option Nat}
  {replies : Replies} {heard : Trace relaying} {ended : Except Fault Endpoint}

theorem recognize_eq (fault : Fault) :
    recognize fault = if fault.kind ∈ [.ledger, .bus, .prover, .storage] then
      ⟨.unexpected, fault.message⟩ else fault := by
  obtain ⟨kind, detail⟩ := fault
  cases kind <;> rfl

theorem Retention.lt_keptFrom_iff (retention : Retention) (head height : Nat) :
    height < retention.keptFrom head ↔
      height + retention.epochs * retention.epochLength < head := by
  unfold keptFrom
  omega

theorem Replies.exists_measured {block : Block} {head : Nat} {P : Nat → Nat → Prop}
    (found : replies.primary = .ok (.found block)) (newest : replies.newest = .ok head) :
    (∃ t n, replies.Measured t n ∧ P t n) ↔ P block.height head := by
  constructor
  · rintro ⟨_, _, ⟨_, found', rfl, newest'⟩, holds⟩
    cases found.symm.trans found'
    cases newest.symm.trans newest'
    exact holds
  · exact fun holds => ⟨_, _, ⟨block, found, rfl, newest⟩, holds⟩

/-- Whatever a choice heard, it followed the rule. -/
theorem Choice.failover {σ : Type} {answer : (call : Call) → σ → call.Answer × σ} {s : σ}
    {chosen : Except Fault Endpoint} (choice : Choice retention id heard (some chosen))
    (answered : heard.AnsweredBy answer s) :
    Failover retention id (.of answer id s) (heard ++ noting chosen)
      (chosen.mapError recognize) := by
  generalize ended : some chosen = outcome at choice
  have primary : (Replies.of answer id s).primary = (answer (.block .primary id) s).1 := rfl
  cases choice with
  | unanswered failure =>
    obtain ⟨fault, rfl, rfl⟩ := Option.map_eq_some_iff.mp ended.symm
    rw [← Option.some.inj answered.1] at primary
    constructor <;>
      simp [primary, Replies.Measured, Replies.second, noting, Except.mapError, recognize_eq]
  | primaryBehind =>
    cases ended
    rw [← Option.some.inj answered.1] at primary
    constructor <;>
      simp [primary, Replies.Measured, Replies.second, noting, Except.mapError, recognize_eq,
        behind]
  | unmeasured block failure =>
    obtain ⟨fault, rfl, rfl⟩ := Option.map_eq_some_iff.mp ended.symm
    rw [← Option.some.inj answered.1] at primary
    have newest : (Replies.of answer id s).newest = .error fault :=
      (Option.some.inj answered.2.1).symm
    constructor <;>
      simp [primary, newest, Replies.Measured, Replies.second, noting, Except.mapError,
        recognize_eq]
  | measured block head =>
    cases ended
    rw [← Option.some.inj answered.1] at primary
    have newest : (Replies.of answer id s).newest = .ok head :=
      (Option.some.inj answered.2.1).symm
    constructor <;>
      simp [primary, Replies.exists_measured primary newest, Replies.second, noting,
        Except.mapError, Retention.server, Retention.lt_keptFrom_iff]
  | unhelped failure =>
    obtain ⟨fault, rfl, rfl⟩ := Option.map_eq_some_iff.mp ended.symm
    rw [← Option.some.inj answered.1] at primary
    have archival : (Replies.of answer id s).archival = .error fault :=
      (Option.some.inj answered.2.1).symm
    constructor <;>
      simp [primary, archival, Replies.Measured, Replies.second, noting, Except.mapError,
        recognize_eq]
  | archived block =>
    cases ended
    rw [← Option.some.inj answered.1] at primary
    have archival : (Replies.of answer id s).archival = .ok (.found block) :=
      (Option.some.inj answered.2.1).symm
    constructor <;>
      simp [primary, archival, Replies.Measured, Replies.second, noting, Except.mapError]
  | archivalBehind =>
    cases ended
    rw [← Option.some.inj answered.1] at primary
    have archival : (Replies.of answer id s).archival = .ok (.absent .notSynced) :=
      (Option.some.inj answered.2.1).symm
    constructor <;>
      simp [primary, archival, Replies.Measured, Replies.second, noting, Except.mapError,
        recognize_eq, behind]
  | missing =>
    cases ended
    rw [← Option.some.inj answered.1] at primary
    have archival : (Replies.of answer id s).archival = .ok (.absent .unknown) :=
      (Option.some.inj answered.2.1).symm
    constructor <;>
      simp [primary, archival, Replies.Measured, Replies.second, noting, Except.mapError,
        recognize_eq, nowhere]

theorem target_eq_ok_iff : target hash height = .ok id ↔ Sole hash height id := by
  cases hash <;> cases height <;> cases id <;> simp [target, Sole]

theorem target_eq_error (both : hash.isSome = height.isSome) :
    ∃ detail, target hash height = .error ⟨.invalidArgument, detail⟩ := by
  cases hash <;> cases height <;> simp [target] at both ⊢

section Surroundings

variable {σ : Type} (answer : (call : Call) → σ → call.Answer × σ) (retention : Retention) (s : σ)

theorem resolve_failover (sole : Sole hash height id) :
    Failover retention id (.of answer id s)
      ((resolve retention hash height).run.transcript answer s)
      ((resolve retention hash height).run.run answer s).1 := by
  have told : target hash height = .ok id := target_eq_ok_iff.mpr sole
  have answered := Program.answeredBy_transcript answer (resolve retention hash height).run s
  have run := Program.runs_transcript answer (resolve retention hash height).run s
  obtain ⟨_, untold, -⟩ | ⟨_, asked, chosen, told', heard, choice, ended⟩ := resolve_runs run
  · cases told.symm.trans untold
  · cases told.symm.trans told'
    rw [heard] at answered ⊢
    rw [ended]
    exact choice.failover answered.of_append

/-- Selection is the rule of failover, whatever the nodes answer: it needs exactly one of a hash
and a height, follows the rule for the block that this names, and once it takes the primary node
for a block it does so for every block as high, with a newest height no greater. -/
theorem resolve_follows_failover (hash : Option String) (height : Option Nat) :
    (hash.isSome = height.isSome →
      (resolve retention hash height).run.transcript answer s = [] ∧
        ∃ detail, ((resolve retention hash height).run.run answer s).1 =
          .error ⟨.invalidArgument, detail⟩) ∧
    ∀ id, Sole hash height id →
      Failover retention id (.of answer id s)
        ((resolve retention hash height).run.transcript answer s)
        ((resolve retention hash height).run.run answer s).1 ∧
      ∀ t n, (Replies.of answer id s).Measured t n →
        ((resolve retention hash height).run.run answer s).1 = .ok .primary →
        ∀ s' hash' height' id', Sole hash' height' id' →
          ∀ t' n', (Replies.of answer id' s').Measured t' n' → t ≤ t' → n' ≤ n →
            ((resolve retention hash' height').run.run answer s').1 = .ok .primary := by
  constructor
  · intro both
    obtain ⟨detail, untold⟩ := target_eq_error both
    have run := Program.runs_transcript answer (resolve retention hash height).run s
    obtain ⟨_, untold', quiet, ended⟩ | ⟨_, _, _, told, -⟩ := resolve_runs run
    · cases untold.symm.trans untold'
      exact ⟨quiet, detail, ended⟩
    · cases untold.symm.trans told
  · intro id sole
    have rule := resolve_failover answer retention s sole
    refine ⟨rule, ?_⟩
    intro t n measured primary s' hash' height' id' sole' t' n' measured' higher older
    obtain ⟨_, _, ⟨_, found, rfl, newest⟩, young⟩ := rule.primary_iff.mp primary
    obtain ⟨_, found', rfl, newest'⟩ := measured
    cases found.symm.trans found'
    cases newest.symm.trans newest'
    apply (resolve_failover answer retention s' sole').primary_iff.mpr
    exact ⟨t', n', measured', by omega⟩

/-- The rule at work on two blocks of the window, and without a block to select for. -/
theorem resolve_follows_failover_recent :
    let answer := Epoch.recent ⟨1, 1⟩ 6 Epoch.skippedStart.flatten ⟨"H3", "H5"⟩
    (resolve ⟨1, 1⟩ none none).run.transcript answer () = [] ∧
    Failover ⟨1, 1⟩ (.height 5) (.of answer (.height 5) ())
      ((resolve ⟨1, 1⟩ none (some 5)).run.transcript answer ()) (.ok .primary) ∧
    ((resolve ⟨1, 1⟩ (some "H6") none).run.run answer ()).1 = .ok .primary := by
  intro answer
  obtain ⟨quiet, -⟩ := (resolve_follows_failover answer ⟨1, 1⟩ () none none).1 rfl
  obtain ⟨rule, mono⟩ :=
    (resolve_follows_failover answer ⟨1, 1⟩ () none (some 5)).2 (.height 5) ⟨rfl, rfl⟩
  have five : (Replies.of answer (.height 5) ()).Measured 5 6 := ⟨_, rfl, rfl, rfl⟩
  have six : (Replies.of answer (.hash "H6") ()).Measured 6 6 := ⟨_, rfl, rfl, rfl⟩
  refine ⟨quiet, rule, ?_⟩
  exact mono 5 6 five rfl () (some "H6") none (.hash "H6") ⟨rfl, rfl⟩ 6 6 six (by decide) le_rfl

end Surroundings

end Node

end HeaderRelay
