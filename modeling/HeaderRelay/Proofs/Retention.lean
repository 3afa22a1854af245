import HeaderRelay.Proofs.Anchors
import HeaderRelay.Proofs.Selection
import HeaderRelay.Proofs.Window

/-
What an operation gets from the node that was selected for it, where the primary node keeps the
chain from a height on and the archival node all of it. Selection looks at the block of the
operation alone, but the operation asks for blocks before it too, so it is served as the archival
node would serve it exactly if those are kept.
-/

set_option autoImplicit false

namespace HeaderRelay

/-- The least height that a node keeps when the newest height is `head`. -/
def Node.Retention.window (r : Node.Retention) (head : Nat) : Endpoint → Nat
  | .primary => r.keptFrom head
  | .archival => 0

namespace Lineage

/-- A block of the chain has an id, and is not below a height. -/
def ShowsFrom (c : Lineage) (kept : Nat) (id : BlockId) (b : Block) : Prop :=
  c.Shows id b ∧ kept ≤ b.height

/-- A node that keeps the chain from a height on shows the block that was asked for, and knows no
other. -/
def ServesFrom (c : Lineage) (kept : Nat) (id : BlockId) : Except Fault Sighting → Prop
  | .ok (.found b) => c.ShowsFrom kept id b
  | .ok (.absent .unknown) => ∀ b, ¬ c.ShowsFrom kept id b
  | _ => False

/-- Every block that a node was asked for was answered from what it keeps. -/
def ServesAllFrom (c : Lineage) (kept : Nat) (node : Endpoint) (trace : Trace relaying) : Prop :=
  ∀ id reply, ⟨.block node id, some reply⟩ ∈ trace → c.ServesFrom kept id reply

/-- A hash names a block of the chain that is not below a height. -/
def Retained (c : Lineage) (kept : Nat) (hash : String) : Prop :=
  ∃ b, c.ShowsFrom kept (.hash hash) b

/-- Surroundings in which the primary node keeps what it is taken to keep, the archival node has
the whole chain, and the saved hashes stay. -/
structure Pruned {σ : Type} (c : Lineage) (retention : Node.Retention) (head : Nat)
    (answer : (call : Call) → σ → call.Answer × σ) : Prop where
  primary : ∀ id s, c.ServesFrom (retention.keptFrom head) id (answer (.block .primary id) s).1
  archival : ∀ id s, c.Serves id (answer (.block .archival id) s).1
  newest : ∀ s, (answer (.head .archival) s).1 = .ok head
  hashes : ∀ height, ∃ reply, ∀ s, (answer (.epochHashes height) s).1 = reply

variable {c : Lineage} {kept : Nat} {node : Endpoint} {trace : Trace relaying} {id : BlockId}
  {a b : Block}

theorem Shows.unique (first : c.Shows id a) (second : c.Shows id b) : a = b := by
  obtain ⟨⟨i, member⟩, named⟩ := first
  cases id with
  | height n =>
    obtain rfl : a.height = n := named
    exact (eq_of_shows_height member second).symm
  | hash s =>
    obtain rfl : a.hash = s := named
    exact (eq_of_shows_hash member second).symm

theorem ShowsFrom.unique (first : c.ShowsFrom kept id a) (second : c.ShowsFrom kept id b) :
    a = b :=
  first.1.unique second.1

theorem ShowsFrom.height_eq {n : Nat} (shown : c.ShowsFrom kept (.height n) b) : b.height = n :=
  shown.1.2

theorem ShowsFrom.whole (shown : c.ShowsFrom kept id b) : c.ShowsFrom 0 id b :=
  ⟨shown.1, Nat.zero_le _⟩

theorem ShowsFrom.byHash (shown : c.ShowsFrom kept id b) : c.ShowsFrom kept (.hash b.hash) b :=
  ⟨⟨shown.1.1, rfl⟩, shown.2⟩

theorem Retained.showsFrom {hash : String} (retained : c.Retained kept hash)
    (shown : c.ShowsFrom 0 (.hash hash) b) : c.ShowsFrom kept (.hash hash) b := by
  obtain ⟨a, showsFrom⟩ := retained
  have same : a = b := showsFrom.whole.unique shown
  rw [← same]
  exact showsFrom

theorem ServesFrom.of_serves {reply : Except Fault Sighting} (serves : c.Serves id reply) :
    c.ServesFrom 0 id reply := by
  rcases reply with fault | block | (_ | _)
  · exact serves
  · exact ⟨serves, Nat.zero_le _⟩
  · exact fun b shown => serves b shown.1
  · exact serves

theorem ServesAllFrom.shows (serves : c.ServesAllFrom kept node trace)
    (shown : Node.Shown node id b trace) : c.ShowsFrom kept id b :=
  serves id _ shown

theorem ServesAllFrom.not_shows (serves : c.ServesAllFrom kept node trace)
    (unknown : Node.Unknown node id trace) : ¬ c.ShowsFrom kept id b :=
  serves id _ unknown b

theorem ServesAllFrom.not_refused (serves : c.ServesAllFrom kept node trace) :
    ¬ Node.Refused node trace := by
  rintro ⟨id, ⟨fault, refused⟩ | refused⟩
  · exact serves id _ refused
  · exact serves id _ refused

/-- The choice of a node depends on the height of the block alone. -/
theorem choice_of_window {retention : Node.Retention} {head : Nat}
    (primary : c.ServesAllFrom (retention.keptFrom head) .primary trace)
    (archival : c.ServesAllFrom 0 .archival trace)
    (newest : ∀ reply, ⟨.head .archival, some reply⟩ ∈ trace → reply = .ok head)
    {chosen : Except Fault Endpoint} (choice : Node.Choice retention id trace (some chosen)) :
    (∃ b, c.Shows id b ∧ chosen = .ok (retention.server head b)) ∨
      ((∀ b, ¬ c.Shows id b) ∧ chosen = .error (Node.nowhere id)) := by
  generalize ended : some chosen = outcome at choice
  cases choice with
  | unanswered failure =>
    cases failure with
    | none => cases ended
    | some fault => exact (primary id (.error fault) List.mem_cons_self).elim
  | primaryBehind => exact (primary id _ List.mem_cons_self).elim
  | unmeasured block failure =>
    cases failure with
    | none => cases ended
    | some fault => cases newest (.error fault) (List.mem_cons_of_mem _ List.mem_cons_self)
  | measured block newestHeight =>
    cases newest (.ok newestHeight) (List.mem_cons_of_mem _ List.mem_cons_self)
    cases ended
    have shown : c.ShowsFrom _ id block := primary.shows List.mem_cons_self
    exact .inl ⟨block, shown.1, rfl⟩
  | unhelped failure =>
    cases failure with
    | none => cases ended
    | some fault =>
      exact (archival id (.error fault) (List.mem_cons_of_mem _ List.mem_cons_self)).elim
  | archived block =>
    cases ended
    have shown : c.ShowsFrom 0 id block :=
      archival.shows (List.mem_cons_of_mem _ List.mem_cons_self)
    have old : block.height < retention.keptFrom head := by
      by_contra recent
      have recent := Nat.le_of_not_lt recent
      exact primary.not_shows List.mem_cons_self ⟨shown.1, recent⟩
    have server : retention.server head block = .archival := if_pos old
    exact .inl ⟨block, shown.1, by rw [server]⟩
  | archivalBehind =>
    exact (archival id _ (List.mem_cons_of_mem _ List.mem_cons_self)).elim
  | missing =>
    cases ended
    refine .inr ⟨fun b shown => ?_, rfl⟩
    have none : ¬ c.ShowsFrom 0 id b :=
      archival.not_shows (List.mem_cons_of_mem _ List.mem_cons_self)
    exact none ⟨shown, Nat.zero_le _⟩

section Surroundings

variable {σ : Type} {retention : Node.Retention} {head : Nat}
  {answer : (call : Call) → σ → call.Answer × σ}

theorem Pruned.serves (pruned : c.Pruned retention head answer) (node : Endpoint) (id : BlockId)
    (s : σ) : c.ServesFrom (retention.window head node) id (answer (.block node id) s).1 := by
  cases node with
  | primary => exact pruned.primary id s
  | archival => exact .of_serves (pruned.archival id s)

/-- What a node that keeps the chain from a height on answered over a run. -/
theorem servesAllFrom_of_answers
    (serves : ∀ id s, c.ServesFrom kept id (answer (.block node id) s).1)
    (answers : ∀ event ∈ trace, ∃ t, event.reply = some (answer event.call t).1) :
    c.ServesAllFrom kept node trace :=
  fun id _ => Trace.reply_of_forall answers (serves id)

theorem Pruned.resolve_run (pruned : c.Pruned retention head answer) {hash : Option String}
    {height : Option Nat} (told : Node.target hash height = .ok id) (s : σ) :
    let resolved := ((Node.resolve retention hash height).run.run answer s).1
    (∃ b, c.Shows id b ∧ resolved = .ok (retention.server head b)) ∨
      ((∀ b, ¬ c.Shows id b) ∧ resolved = .error (Node.nowhere id)) := by
  intro resolved
  obtain ⟨trace, run, answers⟩ :=
    Action.exists_runs answer s (Node.resolve retention hash height)
  rcases Node.resolve_runs run with ⟨fault, untold, -⟩ |
    ⟨_, asked, chosen, told', rfl, choice, ended⟩
  · cases told.symm.trans untold
  cases told.symm.trans told'
  have front : ∀ event ∈ asked, ∃ t, event.reply = some (answer event.call t).1 :=
    fun event member => answers event (List.mem_append_left _ member)
  have serves (node : Endpoint) : c.ServesAllFrom (retention.window head node) node asked :=
    servesAllFrom_of_answers (pruned.serves node) front
  have newest : ∀ reply, ⟨.head .archival, some reply⟩ ∈ asked → reply = .ok head :=
    fun _ => Trace.reply_of_forall (P := (· = _)) front pruned.newest
  change resolved = _ at ended
  rw [ended]
  rcases choice_of_window (serves .primary) (serves .archival) newest choice with
    ⟨b, shown, rfl⟩ | ⟨none, rfl⟩
  · exact .inl ⟨b, shown, rfl⟩
  · exact .inr ⟨none, rfl⟩

end Surroundings

end Lineage

namespace Epoch

variable {c : Lineage} {kept : Nat} {node : Endpoint} {trace : Trace relaying}
  {search : Search} {block start : Block}

/-- A child of a block stands so many heights above it, and is not below a height. -/
def ChildFrom (c : Lineage) (kept : Nat) (parent : Block) (offset : Nat) (child : Block) : Prop :=
  c.ShowsFrom kept (.height (parent.height + offset)) child ∧ child.prevHash = parent.hash

/-- The anchors of a block, as far as the chain is kept: the block that the header names, and its
first child within the window. -/
def AnchorsFrom (c : Lineage) (kept : Nat) (search : Search) (block : Block)
    (link : BlockAnchors) : Prop :=
  ∃ last child d, c.ShowsFrom kept (.hash block.epochId) last ∧ 1 ≤ d ∧ d ≤ search.maxDrift ∧
    ChildFrom c kept last d child ∧
    (∀ e, 1 ≤ e → e < d → ∀ other, ¬ ChildFrom c kept last e other) ∧
    link = ⟨block.hash, child.hash, last.hash⟩

theorem childFrom_of_succeeds {parent child : Block} {offset : Nat}
    (serves : c.ServesAllFrom kept node trace)
    (succeeds : Succeeds node parent offset child trace) : ChildFrom c kept parent offset child :=
  ⟨serves.shows succeeds.shown, succeeds.links⟩

theorem not_childFrom_of_passed {parent child : Block} {offset : Nat}
    (serves : c.ServesAllFrom kept node trace) (passed : Passed node parent offset trace) :
    ¬ ChildFrom c kept parent offset child := by
  rintro ⟨shows, links⟩
  rcases passed with unknown | ⟨other, shown, others⟩
  · exact serves.not_shows unknown shows
  · have same : other = child := (serves.shows shown).unique shows
    exact others (same ▸ links)

/-- A block has one pair of anchors at most. -/
theorem AnchorsFrom.unique {link link' : BlockAnchors}
    (first : AnchorsFrom c kept search block link)
    (second : AnchorsFrom c kept search block link') : link = link' := by
  obtain ⟨last, child, d, named, lower, -, succeeds, none, rfl⟩ := first
  obtain ⟨last', child', d', named', lower', -, succeeds', none', rfl⟩ := second
  obtain rfl := named.unique named'
  rcases Nat.lt_trichotomy d d' with before | rfl | after
  · exact absurd succeeds (none' d lower before child)
  · obtain rfl := succeeds.1.unique succeeds'.1
    rfl
  · exact absurd succeeds' (none d' lower' after child')

/-- A search for anchors finds them exactly if the node keeps them. -/
theorem anchors_run_iff {σ : Type} {answer : (call : Call) → σ → call.Answer × σ}
    (serves : ∀ id s, c.ServesFrom kept id (answer (.block node id) s).1) (s : σ)
    (link : BlockAnchors) :
    ((anchors search node block).run.run answer s).1 = .ok link ↔
      AnchorsFrom c kept search block link := by
  obtain ⟨trace, run, answers⟩ := Action.exists_runs answer s (anchors search node block)
  have served := Lineage.servesAllFrom_of_answers serves answers
  cases ended : ((anchors search node block).run.run answer s).1 with
  | ok found =>
    rw [ended] at run
    obtain ⟨last, child, d, shown, lower, upper, succeeds, passed, rfl⟩ := anchors_runs_ok run
    have found : AnchorsFrom c kept search block ⟨block.hash, child.hash, last.hash⟩ :=
      ⟨last, child, d, served.shows shown, lower, upper, childFrom_of_succeeds served succeeds,
        fun e low high other => not_childFrom_of_passed served (passed e low high), rfl⟩
    constructor
    · intro same
      rw [← Except.ok.inj same]
      exact found
    · intro other
      rw [found.unique other]
  | error fault =>
    rw [ended] at run
    refine ⟨fun impossible => (nomatch impossible), fun found => ?_⟩
    obtain ⟨last, child, d, named, lower, upper, succeeds, -⟩ := found
    rcases anchors_runs_error run with refused | unknown | ⟨last', -, shown, passed⟩
    · exact absurd refused served.not_refused
    · exact absurd named (served.not_shows unknown)
    · obtain rfl := named.unique (served.shows shown)
      exact absurd succeeds (not_childFrom_of_passed served (passed d lower upper))

/-- The anchors of a block are kept exactly if the block that its header names is. -/
theorem AnchorsFrom.kept_iff {link : BlockAnchors} (found : AnchorsFrom c 0 search block link) :
    AnchorsFrom c kept search block link ↔ c.Retained kept block.epochId := by
  constructor
  · rintro ⟨last, -, -, named, -⟩
    exact ⟨last, named⟩
  · intro retained
    obtain ⟨last, child, d, named, lower, upper, ⟨shown, links⟩, none, rfl⟩ := found
    have named' := retained.showsFrom named
    -- The child is above the block that is kept.
    have recent : kept ≤ child.height := by
      have above := shown.height_eq
      have bound := named'.2
      omega
    refine ⟨last, child, d, named', lower, upper, ⟨⟨shown.1, recent⟩, links⟩, ?_, rfl⟩
    intro e low high other succeeds
    exact none e low high other ⟨succeeds.1.whole, succeeds.2⟩

/-- Two blocks at neighbouring heights end the epoch of `start` and begin the next one, and are not
below a height. -/
structure TurnFrom (c : Lineage) (kept : Nat) (start : Block) (height : Nat) (last first : Block) :
    Prop where
  links : isBoundary start last first = true
  last : c.ShowsFrom kept (.height height) last
  first : c.ShowsFrom kept (.height (height + 1)) first

/-- The link to the next epoch, as far as the chain is kept: the two blocks of the checkpoint, and
the first boundary within the window. -/
def LinksFrom (c : Lineage) (kept : Nat) (search : Search) (height : Nat) (saved : EpochHashes)
    (link : EpochLink) : Prop :=
  ∃ start previous last first d, c.ShowsFrom kept (.hash saved.current) start ∧
    c.ShowsFrom kept (.hash saved.previous) previous ∧ d < search.maxDrift ∧
    TurnFrom c kept start (height + search.epochLength - 1 + d) last first ∧
    (∀ e < d, ∀ other next,
      ¬ TurnFrom c kept start (height + search.epochLength - 1 + e) other next) ∧
    link = ⟨first.hash, saved.current, last.hash, saved.previous, previous.nextEpochId,
      first.height⟩

theorem TurnFrom.whole {height : Nat} {last first : Block}
    (turn : TurnFrom c kept start height last first) : TurnFrom c 0 start height last first :=
  ⟨turn.links, turn.last.whole, turn.first.whole⟩

theorem turnFrom_of_found {expected : Nat} {boundary : Boundary}
    (serves : c.ServesAllFrom kept node trace)
    (found : Found node start expected boundary trace) :
    TurnFrom c kept start (expected + boundary.drift) boundary.last boundary.first :=
  ⟨found.links, serves.shows found.last, serves.shows found.first⟩

theorem not_turnFrom_of_missed {expected drift : Nat} {last first : Block}
    (serves : c.ServesAllFrom kept node trace)
    (missed : Missed node start expected drift trace) :
    ¬ TurnFrom c kept start (expected + drift) last first := by
  intro turn
  rcases missed with unknown | unknown | ⟨last', first', shownLast, shownFirst, links⟩
  · exact serves.not_shows unknown turn.last
  · exact serves.not_shows unknown turn.first
  · obtain rfl := turn.last.unique (serves.shows shownLast)
    obtain rfl := turn.first.unique (serves.shows shownFirst)
    cases links.symm.trans turn.links

/-- A checkpoint has one link at most. -/
theorem LinksFrom.unique {height : Nat} {saved : EpochHashes} {link link' : EpochLink}
    (one : LinksFrom c kept search height saved link)
    (two : LinksFrom c kept search height saved link') : link = link' := by
  obtain ⟨start, previous, last, first, d, atStart, before, -, turn, none, rfl⟩ := one
  obtain ⟨start', previous', last', first', d', atStart', before', -, turn', none', rfl⟩ := two
  obtain rfl := atStart.unique atStart'
  obtain rfl := before.unique before'
  rcases Nat.lt_trichotomy d d' with less | rfl | more
  · exact absurd turn (none' d less last first)
  · obtain rfl := turn.last.unique turn'.last
    obtain rfl := turn.first.unique turn'.first
    rfl
  · exact absurd turn' (none d' more last' first')

/-- A scan finds the link of a checkpoint exactly if the node keeps it. -/
theorem scan_run_iff {σ : Type} {answer : (call : Call) → σ → call.Answer × σ} {height : Nat}
    {saved : EpochHashes}
    (serves : ∀ id s, c.ServesFrom kept id (answer (.block node id) s).1)
    (hashes : ∀ s, (answer (.epochHashes height) s).1 = .ok saved) (s : σ) (link : EpochLink) :
    ((scan search node height).run.run answer s).1 = .ok link ↔
      LinksFrom c kept search height saved link := by
  obtain ⟨trace, run, answers⟩ := Action.exists_runs answer s (scan search node height)
  have served := Lineage.servesAllFrom_of_answers serves answers
  have read : ∀ reply, ⟨.epochHashes height, some reply⟩ ∈ trace → reply = .ok saved :=
    fun _ => Trace.reply_of_forall (P := (· = _)) answers hashes
  cases ended : ((scan search node height).run.run answer s).1 with
  | ok found =>
    rw [ended] at run
    obtain ⟨_, start, boundary, previous, readSaved, shownStart, shownPrevious, within, found,
      missed, same⟩ := scan_runs_ok run
    cases read _ readSaved
    have found : LinksFrom c kept search height saved _ :=
      ⟨start, previous, boundary.last, boundary.first, boundary.drift, served.shows shownStart,
        served.shows shownPrevious, within, turnFrom_of_found served found,
        fun e before other next => not_turnFrom_of_missed served (missed e before), same⟩
    constructor
    · intro same
      rw [← Except.ok.inj same]
      exact found
    · intro other
      rw [found.unique other]
  | error fault =>
    rw [ended] at run
    refine ⟨fun impossible => (nomatch impossible), fun found => ?_⟩
    obtain ⟨start, previous, last, first, d, atStart, before, within, turn, -⟩ := found
    rcases scan_runs_error run with ⟨other, failed⟩ | refused | ⟨_, readSaved, unknown⟩ |
      ⟨-, _, start', readSaved, shownStart, missed⟩
    · cases read _ failed
    · exact absurd refused served.not_refused
    · cases read _ readSaved
      rcases unknown with unknown | unknown
      · exact absurd atStart (served.not_shows unknown)
      · exact absurd before (served.not_shows unknown)
    · cases read _ readSaved
      obtain rfl := atStart.unique (served.shows shownStart)
      exact absurd turn (not_turnFrom_of_missed served (missed d within))

/-- The link of a checkpoint is kept exactly if its two blocks and the end of its epoch are. -/
theorem LinksFrom.kept_iff {height : Nat} {saved : EpochHashes} {link : EpochLink}
    (found : LinksFrom c 0 search height saved link) :
    LinksFrom c kept search height saved link ↔ c.Retained kept link.epochStart ∧
      c.Retained kept link.epochEnd ∧ c.Retained kept link.epochEnd1 := by
  constructor
  · rintro ⟨start, previous, last, first, d, atStart, before, -, turn, -, rfl⟩
    exact ⟨⟨start, atStart⟩, ⟨last, turn.last.byHash⟩, ⟨previous, before⟩⟩
  · obtain ⟨start, previous, last, first, d, atStart, before, within, turn, none, rfl⟩ := found
    rintro ⟨keptStart, keptLast, keptPrevious⟩
    have recent : kept ≤ last.height := (keptLast.showsFrom turn.last.byHash).2
    -- The first block of the next epoch is above the one that is kept.
    have recent' : kept ≤ first.height := by
      have atLast := turn.last.height_eq
      have atFirst := turn.first.height_eq
      omega
    refine ⟨start, previous, last, first, d, keptStart.showsFrom atStart,
      keptPrevious.showsFrom before, within,
      ⟨turn.links, ⟨turn.last.1, recent⟩, ⟨turn.first.1, recent'⟩⟩, ?_, rfl⟩
    intro e before other next turn'
    exact none e before other next turn'.whole

/-- A scan that found a link was told the saved hashes. -/
theorem exists_saved_of_scan {σ : Type} {answer : (call : Call) → σ → call.Answer × σ}
    {height : Nat} {s : σ} {link : EpochLink}
    (found : ((scan search node height).run.run answer s).1 = .ok link) :
    ∃ saved t, (answer (.epochHashes height) t).1 = .ok saved := by
  obtain ⟨trace, run, answers⟩ := Action.exists_runs answer s (scan search node height)
  rw [found] at run
  obtain ⟨saved, -, -, -, read, -⟩ := scan_runs_ok run
  obtain ⟨t, answered⟩ := answers _ read
  exact ⟨saved, t, (Option.some.inj answered).symm⟩

section Operations

variable {σ : Type} {retention : Node.Retention} {head : Nat}
  {answer : (call : Call) → σ → call.Answer × σ}

/-- What the whole chain gives, a node gives exactly if it is the archival node, or the blocks that
it takes are kept. -/
theorem window_iff (gives : Nat → Prop) {kept : Prop} (whole : gives 0)
    (recent : gives (retention.keptFrom head) ↔ kept) (node : Endpoint) :
    gives (retention.window head node) ↔ node = .archival ∨ kept := by
  cases node with
  | archival => exact ⟨fun _ => .inl rfl, fun _ => whole⟩
  | primary =>
    refine recent.trans ⟨.inr, fun served => ?_⟩
    exact served.resolve_left fun impossible => nomatch impossible

/-- The anchors of a block that the archival node finds, the node that was selected for the block
finds too, exactly if it is the archival node or keeps the block that the header names. -/
theorem anchors_served_iff (pruned : c.Pruned retention head answer) (b : Block) {s : σ}
    {link : BlockAnchors} (found : ((anchors search .archival block).run.run answer s).1 = .ok link)
    (t : σ) :
    ((anchors search (retention.server head b) block).run.run answer t).1 = .ok link ↔
      retention.server head b = .archival ∨
        c.Retained (retention.keptFrom head) block.epochId := by
  have whole := (anchors_run_iff (pruned.serves .archival) s link).mp found
  rw [anchors_run_iff (pruned.serves _) t link]
  exact window_iff (fun kept => AnchorsFrom c kept search block link) whole whole.kept_iff _

/-- The link that a scan of the archival node finds, a scan of the selected node finds too, exactly
if it is the archival node or keeps the two blocks of the checkpoint and the end of its epoch. -/
theorem scan_served_iff (pruned : c.Pruned retention head answer) (b : Block) {s : σ}
    {height : Nat} {link : EpochLink}
    (found : ((scan search .archival height).run.run answer s).1 = .ok link) (t : σ) :
    ((scan search (retention.server head b) height).run.run answer t).1 = .ok link ↔
      retention.server head b = .archival ∨
        (c.Retained (retention.keptFrom head) link.epochStart ∧
          c.Retained (retention.keptFrom head) link.epochEnd ∧
          c.Retained (retention.keptFrom head) link.epochEnd1) := by
  obtain ⟨saved, u, told⟩ := exists_saved_of_scan found
  have hashes : ∀ s, (answer (.epochHashes height) s).1 = .ok saved := by
    obtain ⟨reply, same⟩ := pruned.hashes height
    intro v
    rw [same v, ← same u, told]
  have whole := (scan_run_iff (pruned.serves .archival) hashes s link).mp found
  rw [scan_run_iff (pruned.serves _) hashes t link]
  exact window_iff (fun kept => LinksFrom c kept search height saved link) whole whole.kept_iff _

/-- Selection picks the archival node for the blocks that the primary node does not keep, and
nothing for a height without a block. The selected node gives the operation on its block what the
archival node would give, exactly if it is the archival node or the older blocks that the
operation asks for are kept as well. -/
theorem selected_node_serves_iff (pruned : c.Pruned retention head answer) (search : Search)
    (r s t : σ) :
    (∀ i, ∀ b ∈ c.epoch i,
      ((Node.resolve retention (some b.hash) none).run.run answer r).1 =
        .ok (retention.server head b) ∧
      ∀ link, ((anchors search .archival b).run.run answer s).1 = .ok link →
        (((anchors search (retention.server head b) b).run.run answer t).1 = .ok link ↔
          retention.server head b = .archival ∨
            c.Retained (retention.keptFrom head) b.epochId)) ∧
    (∀ i, ∀ b ∈ c.epoch i,
      ((Node.resolve retention none (some b.height)).run.run answer r).1 =
        .ok (retention.server head b) ∧
      ∀ link, ((scan search .archival b.height).run.run answer s).1 = .ok link →
        (((scan search (retention.server head b) b.height).run.run answer t).1 = .ok link ↔
          retention.server head b = .archival ∨
            (c.Retained (retention.keptFrom head) link.epochStart ∧
              c.Retained (retention.keptFrom head) link.epochEnd ∧
              c.Retained (retention.keptFrom head) link.epochEnd1))) ∧
    ∀ height, (∀ i, ∀ b ∈ c.epoch i, b.height ≠ height) →
      ((Node.resolve retention none (some height)).run.run answer r).1 =
        .error (Node.nowhere (.height height)) := by
  have chosen {hash : Option String} {height : Option Nat} {id : BlockId} {b : Block}
      (told : Node.target hash height = .ok id) (shown : c.Shows id b) :
      ((Node.resolve retention hash height).run.run answer r).1 =
        .ok (retention.server head b) := by
    rcases pruned.resolve_run told r with ⟨other, shown', resolved⟩ | ⟨none, -⟩
    · rw [resolved, shown.unique shown']
    · exact absurd shown (none b)
  refine ⟨fun i b member => ⟨chosen rfl ⟨⟨i, member⟩, rfl⟩, ?_⟩,
    fun i b member => ⟨chosen rfl ⟨⟨i, member⟩, rfl⟩, ?_⟩, fun height unproduced => ?_⟩
  · intro link found
    exact anchors_served_iff pruned b found t
  · intro link found
    exact scan_served_iff pruned b found t
  · have told : Node.target none (some height) = .ok (.height height) := rfl
    rcases pruned.resolve_run told r with ⟨b, ⟨⟨i, member⟩, atHeight⟩, -⟩ | ⟨-, failed⟩
    · exact absurd atHeight (unproduced i b member)
    · exact failed

end Operations

/-- Surroundings that have some blocks on the archival node and the recent ones of them on the
primary node. -/
def recent (retention : Node.Retention) (head : Nat) (blocks : List Block) (saved : EpochHashes) :
    (call : Call) → Unit → call.Answer × Unit
  | .block .primary id, s =>
      archive (blocks.filter (retention.keptFrom head ≤ ·.height)) saved (.block .primary id) s
  | .head .archival, s => (.ok head, s)
  | call, s => archive blocks saved call s

theorem pruned_recent (c : Lineage) (retention : Node.Retention) (head : Nat)
    (saved : EpochHashes) {blocks : List Block} (all : ∀ b, b ∈ blocks ↔ ∃ i, b ∈ c.epoch i) :
    c.Pruned retention head (recent retention head blocks saved) := by
  refine ⟨fun id s => ?_, (c.serving_archive .archival 0 saved all).blocks, fun s => rfl,
    fun height => ⟨.ok saved, fun s => rfl⟩⟩
  have kept (b : Block) : b ∈ blocks.filter (retention.keptFrom head ≤ ·.height) ↔
      (∃ i, b ∈ c.epoch i) ∧ retention.keptFrom head ≤ b.height := by
    rw [List.mem_filter, all, decide_eq_true_iff]
  cases found : (blocks.filter (retention.keptFrom head ≤ ·.height)).find? (id.Names ·) with
  | some b =>
    have named : id.Names b := by simpa using List.find?_some found
    obtain ⟨member, recent⟩ := (kept b).mp (List.mem_of_find?_eq_some found)
    simp only [Epoch.recent, archive, found, Option.elim_some]
    exact ⟨⟨member, named⟩, recent⟩
  | none =>
    simp only [recent, archive, found, Option.elim_none]
    rintro b ⟨⟨member, named⟩, recent⟩
    have passed := List.find?_eq_none.mp found b ((kept b).mpr ⟨member, recent⟩)
    exact passed (decide_eq_true named)

/-- The node that is selected for the newest block does not know the end of the epoch that the
header names, and the one that is selected for the checkpoint does not know the block before it. -/
theorem selected_primary_lacks_anchors :
    let answer := recent ⟨1, 1⟩ 6 skippedStart.flatten ⟨"H3", "H5"⟩
    let block : Block := ⟨"H6", 6, "H3", "H5", "H5", 0⟩
    skippedStartChain.Pruned ⟨1, 1⟩ 6 answer ∧ block ∈ skippedStartChain.epoch 3 ∧
    ((Node.resolve ⟨1, 1⟩ (some "H6") none).run.run answer ()).1 = .ok .primary ∧
    ((anchors ⟨1, 3⟩ .archival block).run.run answer ()).1 = .ok ⟨"H6", "H5", "H3"⟩ ∧
    ((anchors ⟨1, 3⟩ .primary block).run.run answer ()).1 ≠ .ok ⟨"H6", "H5", "H3"⟩ ∧
    ((Node.resolve ⟨1, 1⟩ none (some 5)).run.run answer ()).1 = .ok .primary ∧
    ((scan ⟨1, 1⟩ .archival 5).run.run answer ()).1 = .ok ⟨"H6", "H5", "H5", "H3", "H1", 6⟩ ∧
    ((scan ⟨1, 1⟩ .primary 5).run.run answer ()).1 ≠ .ok ⟨"H6", "H5", "H5", "H3", "H1", 6⟩ := by
  intro answer block
  have pruned : skippedStartChain.Pruned ⟨1, 1⟩ 6 answer :=
    pruned_recent _ _ _ _ fun _ => mem_flatten_iff
  have lacksAnchor : ((anchors ⟨1, 3⟩ .primary block).run.run answer ()).1 =
      .error ⟨.unknownBlock, "primary node does not know block hash H3"⟩ := rfl
  have lacksBefore : ((scan ⟨1, 1⟩ .primary 5).run.run answer ()).1 =
      .error ⟨.unknownBlock, "primary node does not know block hash H3"⟩ := rfl
  refine ⟨pruned, List.mem_singleton.mpr rfl, rfl, rfl, ?_, rfl, rfl, ?_⟩
  · rw [lacksAnchor]
    exact fun impossible => nomatch impossible
  · rw [lacksBefore]
    exact fun impossible => nomatch impossible

/-- With two more epochs kept, the newest block is served in full by the primary node. -/
theorem selected_node_serves_newest :
    let answer := recent ⟨1, 3⟩ 6 skippedStart.flatten ⟨"H3", "H5"⟩
    let block : Block := ⟨"H6", 6, "H3", "H5", "H5", 0⟩
    skippedStartChain.Pruned ⟨1, 3⟩ 6 answer ∧
    ((anchors ⟨1, 3⟩ .archival block).run.run answer ()).1 = .ok ⟨"H6", "H5", "H3"⟩ ∧
    ((anchors ⟨1, 3⟩ .primary block).run.run answer ()).1 = .ok ⟨"H6", "H5", "H3"⟩ := by
  intro answer block
  have pruned : skippedStartChain.Pruned ⟨1, 3⟩ 6 answer :=
    pruned_recent _ _ _ _ fun _ => mem_flatten_iff
  have found : ((anchors ⟨1, 3⟩ .archival block).run.run answer ()).1 =
      .ok ⟨"H6", "H5", "H3"⟩ := rfl
  have kept : skippedStartChain.Retained 3 "H3" :=
    ⟨⟨"H3", 3, "G", "H2", "H1", 0⟩, ⟨⟨1, by decide⟩, rfl⟩, by decide⟩
  have member : block ∈ skippedStartChain.epoch 3 := List.mem_singleton.mpr rfl
  obtain ⟨-, served⟩ := (selected_node_serves_iff pruned ⟨1, 3⟩ () () ()).1 3 block member
  exact ⟨pruned, found, (served _ found).mpr (.inr kept)⟩

end Epoch

end HeaderRelay
