import HeaderRelay.Proofs.Safety
import HeaderRelay.Proofs.Window

set_option autoImplicit false

namespace HeaderRelay

namespace Lineage

variable (c : Lineage)

/-- The checkpoint at which an epoch begins. -/
def opening? (i : Nat) : Option Checkpoint :=
  (c.first? i).map fun first => ⟨first.height, c.closing i, first.hash⟩

/-- The task of the step from an epoch to the next. -/
def IsStep (i : Nat) (task : EpochTask) : Prop :=
  ∃ start last next, c.first? i = some start ∧ c.last? i = some last ∧
    c.first? (i + 1) = some next ∧
    task = ⟨next.hash, start.hash, last.hash, c.closing i, c.closing (i - 1)⟩

/-- A prover that reports success reports the new epoch, the block before it and the true
height. -/
def Honest : Event relaying → Prop
  | ⟨.prove task, some (.ok result)⟩ => result.status = .ok →
      result.block = task.currentEpoch ∧ result.previousBlock = task.epochEnd ∧
        ∀ b, c.Shows (.hash result.block) b → result.height = b.height
  | _ => True

/-- All that the nodes show in a row of questions is of the chain, and the prover is honest. -/
def Faithful (trace : Trace relaying) : Prop :=
  ∀ event ∈ trace, c.Truthful event ∧ c.Honest event

/-- The contract stands at an epoch: it holds the hashes of the first block and of the last block
before. The first two epochs have the same epoch id, so at the second the checkpoint must not lie
before its epoch. -/
def StandsAt (register : Register) (k : Nat) : Prop :=
  ∃ start, c.first? k = some start ∧
    register.hashes register.checkpoint = some ⟨c.closing k, start.hash⟩ ∧
    (k = 1 → start.height ≤ register.checkpoint)

/-- What is proved and committed while the contract stands at an epoch. -/
def Proper (k : Nat) : Event relaying → Prop
  | ⟨.prove task, _⟩ => c.IsStep k task
  | ⟨.commit previous current height, _⟩ =>
      c.opening? (k + 1) = some ⟨height, previous, current⟩
  | _ => True

/-- All that is proved and committed in a row that begins at an epoch. -/
def Keeps (register : Register) (k : Nat) (trace : Trace relaying) : Prop :=
  ∀ before event after stored current, trace = before ++ event :: after →
    register.Follows before stored current → c.Proper (k + stored.length) event

variable {c} {register last : Register} {trace before after : Trace relaying} {k : Nat}
  {stored : List Checkpoint}

theorem faithful_append :
    c.Faithful (before ++ after) ↔ c.Faithful before ∧ c.Faithful after :=
  List.forall_mem_append

theorem proper_of_idle {event : Event relaying} (idle : event.call.decides = false) :
    c.Proper k event := by
  obtain ⟨call, reply⟩ := event
  cases call <;> first | exact True.intro | cases idle

theorem Keeps.nil : c.Keeps register k [] := by
  intro before event after stored current split
  cases before <;> cases split

theorem Keeps.cons {event : Event relaying} (proper : c.Proper k event)
    (rest : ∀ stored next, register.Turn event stored next →
      c.Keeps next (k + stored.length) trace) :
    c.Keeps register k (event :: trace) := by
  intro before event' after stored current split follows
  cases before with
  | nil =>
    obtain ⟨rfl, rfl⟩ := List.cons.inj split
    cases follows
    exact proper
  | cons first before =>
    obtain ⟨rfl, inside⟩ := List.cons.inj split
    cases follows with
    | cons turn later =>
      rw [List.length_append, ← Nat.add_assoc]
      exact rest _ _ turn before event' after _ current inside later

theorem Keeps.append (front : c.Keeps register k before)
    (back : ∀ stored middle, register.Follows before stored middle →
      c.Keeps middle (k + stored.length) after) :
    c.Keeps register k (before ++ after) := by
  induction before generalizing register k with
  | nil => exact back [] register (.nil register)
  | cons event before ih =>
    refine .cons (front [] event before [] register rfl (.nil register)) ?_
    intro stored next turn
    refine ih ?_ ?_
    · intro before' event' after' later current split follows
      have proper := front (event :: before') event' after' (stored ++ later) current
        (congrArg _ split) (.cons turn follows)
      rwa [List.length_append, ← Nat.add_assoc] at proper
    · intro later middle follows
      have keeps := back (stored ++ later) middle (.cons turn follows)
      rwa [List.length_append, ← Nat.add_assoc] at keeps

/-- A row without proofs and commits leaves everything to what follows. -/
theorem Keeps.append_idles (idles : ∀ event ∈ before, event.call.decides = false)
    (keeps : c.Keeps register k after) : c.Keeps register k (before ++ after) := by
  induction before with
  | nil => exact keeps
  | cons event before ih =>
    obtain ⟨idle, idles⟩ := List.forall_mem_cons.mp idles
    refine .cons (proper_of_idle idle) fun stored next turn => ?_
    cases turn with
    | read => exact ih idles
    | stored => cases idle
    | lost => cases idle

theorem Keeps.of_idles (idles : ∀ event ∈ trace, event.call.decides = false) :
    c.Keeps register k trace := by
  rw [← List.append_nil trace]
  exact .append_idles idles .nil

/-- What a run does to the contract that stands at an epoch: nothing, or it opens the next. -/
inductive Moves (c : Lineage) (register : Register) (k : Nat) :
    List Checkpoint → Register → Prop
  | still : Moves c register k [] register
  | on (opening : Checkpoint) (opens : c.opening? (k + 1) = some opening) :
      Moves c register k [opening] (register.store opening)

theorem opening?_eq {i : Nat} {first : Block} (atStart : c.first? i = some first) :
    c.opening? i = some ⟨first.height, c.closing i, first.hash⟩ := by
  rw [opening?, atStart, Option.map_some]

/-- After the commit of an opening the contract stands at its epoch. -/
theorem standsAt_store {i : Nat} {opening : Checkpoint} (opens : c.opening? i = some opening) :
    c.StandsAt (register.store opening) i := by
  obtain ⟨first, atStart, rfl⟩ := Option.map_eq_some_iff.mp opens
  exact ⟨first, atStart, if_pos rfl, fun _ => Nat.le_refl _⟩

theorem Moves.standsAt (moves : c.Moves register k stored last)
    (stands : c.StandsAt register k) : c.StandsAt last (k + stored.length) := by
  cases moves with
  | still => exact stands
  | on opening opens => exact standsAt_store opens

/-- What an honest prover reports of the step out of an epoch is the opening of the next. -/
theorem opening?_of_honest {task : EpochTask} {result : EpochResult} (step : c.IsStep k task)
    (honest : c.Honest ⟨.prove task, some (.ok result)⟩) (proved : result.status = .ok) :
    c.opening? (k + 1) = some ⟨result.height, result.previousBlock, result.block⟩ := by
  obtain ⟨start, last, next, -, atEnd, atNext, rfl⟩ := step
  obtain ⟨block, previous, height⟩ := honest proved
  have shown : c.Shows (.hash result.block) next :=
    ⟨⟨k + 1, mem_of_first? atNext⟩, block.symm⟩
  rw [opening?_eq atNext, closing_succ atEnd, height next shown, block, previous]

end Lineage

namespace Epoch

variable {c : Lineage} {rules : Rules} {register last : Register} {trace : Trace relaying}
  {k height : Nat} {task : EpochTask} {stored : List Checkpoint}

theorem build_ok {link : EpochLink} (built : EpochTask.build link = .ok task) :
    task = ⟨link.currentEpoch, link.epochStart, link.epochEnd, link.epochEnd1,
      link.epochEnd2⟩ := by
  obtain ⟨_, current, built⟩ := exists_of_bind_ok built
  obtain ⟨_, start, built⟩ := exists_of_bind_ok built
  obtain ⟨_, last, built⟩ := exists_of_bind_ok built
  obtain ⟨_, last1, built⟩ := exists_of_bind_ok built
  obtain ⟨_, last2, built⟩ := exists_of_bind_ok built
  cases built
  rw [requireHash_ok current, requireHash_ok start, requireHash_ok last, requireHash_ok last1,
    requireHash_ok last2]

/-- A task is the step out of the epoch at which the contract stands. -/
theorem Ready.step (ready : Ready rules height task trace)
    (follows : register.Follows trace stored last) (later : 1 ≤ k)
    (long : 1 ≤ rules.search.epochLength) (stands : c.StandsAt register k)
    (faithful : c.Faithful trace) : c.IsStep k task := by
  obtain ⟨-, -, answers⟩ := follows.of_reads (commits_of_idles ready.idles)
  cases ready with
  | intro chosen scanned built =>
    rename_i node link choosing scanning
    have inTrace {event : Event relaying} (member : event ∈ scanning) :
        event ∈ (⟨.checkpoint, some (.ok height)⟩ ::
          ⟨.note (.checkpointRead height), some ()⟩ :: (choosing ++ scanning) :
            Trace relaying) :=
      List.mem_cons_of_mem _ (List.mem_cons_of_mem _ (List.mem_append_right _ member))
    have shows {id : BlockId} {b : Block} (shown : Node.Shown node id b scanning) :
        c.Shows id b :=
      (faithful _ (inTrace shown)).1
    obtain rfl := Register.answers_checkpoint (answers _ List.mem_cons_self)
    obtain ⟨saved, start, boundary, previous, read, shownStart, shownPrevious, within, found,
      -, rfl⟩ := scan_runs_ok scanned
    obtain ⟨first, atStart, held, ahead⟩ := stands
    cases held.symm.trans (Register.answers_epochHashes (answers _ (inTrace read)))
    obtain rfl := Lineage.eq_of_shows_hash (Lineage.mem_of_first? atStart) (shows shownStart)
    obtain ⟨i, sameEpoch, atEnd, next, heightLast, -⟩ :=
      found.turns (fun _ _ => shows) (Lineage.mem_of_first? atStart)
    have own : i = k := by
      by_contra other
      obtain ⟨rfl, rfl⟩ : k = 1 ∧ i = 0 := by omega
      have below := Lineage.height_lt_of_lt (Lineage.mem_of_last? atEnd)
        (Lineage.mem_of_first? atStart) Nat.zero_lt_one
      have above := ahead rfl
      omega
    subst own
    obtain ⟨j, rfl⟩ := Nat.exists_eq_add_of_le' later
    obtain ⟨before, beforeEnd⟩ := Lineage.exists_last (Lineage.epoch_ne_nil
      (Lineage.mem_of_first? atStart) (Nat.le_succ j))
    have named := shows shownPrevious
    rw [Lineage.closing_succ beforeEnd] at named
    obtain rfl := Lineage.eq_of_shows_hash (Lineage.mem_of_last? beforeEnd) named
    refine ⟨_, _, _, atStart, atEnd, next, ?_⟩
    rw [build_ok built, c.nextEpochId_eq j _ (Lineage.mem_of_last? beforeEnd)]
    rfl

theorem Ready.follows {opening more : Trace relaying} (ready : Ready rules height task trace)
    (opens : ∀ event ∈ opening, event.call.notes = true)
    (follows : register.Follows (opening ++ (trace ++ more)) stored last) :
    register.Follows trace [] register ∧ register.Follows more stored last := by
  obtain ⟨_, _, _, rfl, front, rest⟩ := follows.append
  obtain ⟨rfl, rfl, -⟩ := front.of_reads (commits_of_idles (idles_of_notes opens))
  obtain ⟨_, _, _, rfl, asked, later⟩ := rest.append
  obtain ⟨rfl, rfl, -⟩ := asked.of_reads (commits_of_idles ready.idles)
  exact ⟨asked, later⟩

/-- What an iteration has proved and commits belongs to the epoch of the contract. -/
theorem Course.keeps {outcome : Option (Except Fault Report)} (course : Course rules trace outcome)
    (later : 1 ≤ k) (long : 1 ≤ rules.search.epochLength) (stands : c.StandsAt register k)
    (faithful : c.Faithful trace) : c.Keeps register k trace := by
  have step {height : Nat} {task : EpochTask} {before : Trace relaying}
      {stored : List Checkpoint} {middle : Register} (ready : Ready rules height task before)
      (follows : register.Follows before stored middle) (faithful : c.Faithful before) :
      c.IsStep k task ∧ stored = [] ∧ middle = register := by
    obtain ⟨none, same, -⟩ := follows.of_reads (commits_of_idles ready.idles)
    exact ⟨ready.step follows later long stands faithful, none, same⟩
  cases course with
  | idle idles unfinished => exact .of_idles idles
  | unproved opens ready reply idles unfinished =>
    obtain ⟨-, faithful⟩ := Lineage.faithful_append.mp faithful
    obtain ⟨asked, -⟩ := Lineage.faithful_append.mp faithful
    refine .append_idles (idles_of_notes opens) (.append (.of_idles ready.idles) ?_)
    intro stored middle follows
    obtain ⟨isStep, rfl, rfl⟩ := step ready follows asked
    exact .cons isStep fun _ _ _ => .of_idles idles
  | committed opens ready proved rises reply idles finished =>
    obtain ⟨-, faithful⟩ := Lineage.faithful_append.mp faithful
    obtain ⟨asked, rest⟩ := Lineage.faithful_append.mp faithful
    refine .append_idles (idles_of_notes opens) (.append (.of_idles ready.idles) ?_)
    intro stored middle follows
    obtain ⟨isStep, rfl, rfl⟩ := step ready follows asked
    have opening := Lineage.opening?_of_honest isStep (rest _ List.mem_cons_self).2 proved
    refine .cons isStep fun stored next turn => ?_
    cases turn with
    | read => exact .cons opening fun _ _ _ => .of_idles idles

/-- An iteration leaves the contract where it is, or opens the next epoch. -/
theorem Course.moves {outcome : Option (Except Fault Report)}
    (course : Course rules trace outcome) (follows : register.Follows trace stored last)
    (later : 1 ≤ k) (long : 1 ≤ rules.search.epochLength) (stands : c.StandsAt register k)
    (faithful : c.Faithful trace) : c.Moves register k stored last := by
  cases course with
  | idle idles unfinished =>
    obtain ⟨rfl, rfl, -⟩ := follows.of_reads (commits_of_idles idles)
    exact .still
  | unproved opens ready reply idles unfinished =>
    obtain ⟨-, rest⟩ := ready.follows opens follows
    obtain ⟨rfl, rfl, -⟩ :=
      rest.of_reads (List.forall_mem_cons.mpr ⟨rfl, commits_of_idles idles⟩)
    exact .still
  | committed opens ready proved rises reply idles finished =>
    obtain ⟨-, faithful⟩ := Lineage.faithful_append.mp faithful
    obtain ⟨readily, told⟩ := Lineage.faithful_append.mp faithful
    obtain ⟨asked, rest⟩ := ready.follows opens follows
    have isStep := ready.step asked later long stands readily
    have opening := Lineage.opening?_of_honest isStep (told _ List.mem_cons_self).2 proved
    cases rest with
    | cons turn rest =>
      cases turn with
      | read =>
        -- A commit that fails may have opened the epoch all the same.
        rcases rest.of_commit with ⟨_, rfl, rest'⟩ | ⟨_, rest'⟩
        · obtain ⟨rfl, rfl, -⟩ := rest'.of_reads (commits_of_idles idles)
          exact .on _ opening
        · obtain ⟨rfl, rfl, -⟩ := rest'.of_reads (commits_of_idles idles)
          exact .still

theorem Round.Sound.keeps {round : Round} (sound : round.Sound rules) (later : 1 ≤ k)
    (long : 1 ≤ rules.search.epochLength) (stands : c.StandsAt register k)
    (faithful : c.Faithful round.events) : c.Keeps register k round.events := by
  obtain ⟨body, -⟩ := Lineage.faithful_append.mp faithful
  have keeps := (iterate_runs sound.runs).keeps later long stands body
  exact keeps.append fun _ _ _ => .of_idles sound.pause_idles

theorem Round.Sound.moves {round : Round} (sound : round.Sound rules)
    (follows : register.Follows round.events stored last) (later : 1 ≤ k)
    (long : 1 ≤ rules.search.epochLength) (stands : c.StandsAt register k)
    (faithful : c.Faithful round.events) : c.Moves register k stored last := by
  obtain ⟨body, -⟩ := Lineage.faithful_append.mp faithful
  exact (iterate_runs sound.runs).moves (sound.body follows) later long stands body

variable {rounds : List Round}

theorem rounds_keep (sound : ∀ round ∈ rounds, round.Sound rules) (later : 1 ≤ k)
    (long : 1 ≤ rules.search.epochLength) (stands : c.StandsAt register k)
    (faithful : c.Faithful (rounds.map Round.events).flatten) :
    c.Keeps register k (rounds.map Round.events).flatten := by
  induction rounds generalizing register k with
  | nil => exact .nil
  | cons round rounds ih =>
    obtain ⟨soundRound, soundRounds⟩ := List.forall_mem_cons.mp sound
    rw [List.map_cons, List.flatten_cons] at faithful ⊢
    obtain ⟨faithfulRound, faithfulRounds⟩ := Lineage.faithful_append.mp faithful
    refine .append (soundRound.keeps later long stands faithfulRound) ?_
    intro stored middle follows
    have moves := soundRound.moves follows later long stands faithfulRound
    exact ih soundRounds (by omega) (moves.standsAt stands) faithfulRounds

theorem rounds_move (sound : ∀ round ∈ rounds, round.Sound rules)
    (follows : register.Follows (rounds.map Round.events).flatten stored last)
    (later : 1 ≤ k) (long : 1 ≤ rules.search.epochLength) (stands : c.StandsAt register k)
    (faithful : c.Faithful (rounds.map Round.events).flatten) :
    (∀ i (inside : i < stored.length), c.opening? (k + 1 + i) = some stored[i]) ∧
      c.StandsAt last (k + stored.length) := by
  induction rounds generalizing register k stored with
  | nil =>
    cases follows
    exact ⟨fun i inside => absurd inside (Nat.not_lt_zero i), stands⟩
  | cons round rounds ih =>
    obtain ⟨soundRound, soundRounds⟩ := List.forall_mem_cons.mp sound
    rw [List.map_cons, List.flatten_cons] at follows faithful
    obtain ⟨faithfulRound, faithfulRounds⟩ := Lineage.faithful_append.mp faithful
    obtain ⟨first, more, middle, rfl, front, back⟩ := follows.append
    have moves := soundRound.moves front later long stands faithfulRound
    obtain ⟨opens, standsLast⟩ := ih soundRounds back (by omega) (moves.standsAt stands)
      faithfulRounds
    cases moves with
    | still => exact ⟨opens, standsLast⟩
    | on opening next =>
      refine ⟨?_, ?_⟩
      · intro i inside
        cases i with
        | zero => exact next
        | succ i =>
          have opened := opens i (Nat.lt_of_succ_lt_succ inside)
          rwa [List.length_singleton, Nat.add_assoc _ 1 i, Nat.add_comm 1 i] at opened
      · rw [List.length_append, ← Nat.add_assoc]
        exact standsLast

/-- The checkpoint follows the epochs of the chain, one after another. Every checkpoint that is
stored opens the next epoch, none is left out and none comes twice; the contract ends up at the
epoch it was brought to, and while it stands at an epoch only the step out of that epoch is
proved, and only the opening of the next one committed. -/
theorem loop_opens_epochs {policy : Retry.Policy} {fuel : Nat} {outcome : Option (Option Fault)}
    (run : (loop rules policy fuel).Runs trace outcome)
    (follows : register.Follows trace stored last) (later : 1 ≤ k)
    (long : 1 ≤ rules.search.epochLength) (stands : c.StandsAt register k)
    (truthful : ∀ event ∈ trace, c.Truthful event) (honest : ∀ event ∈ trace, c.Honest event) :
    (∀ i (inside : i < stored.length), c.opening? (k + 1 + i) = some stored[i]) ∧
      c.StandsAt last (k + stored.length) ∧ c.Keeps register k trace := by
  obtain ⟨rounds, rfl, sound⟩ := loopFrom_runs run
  have faithful : c.Faithful (rounds.map Round.events).flatten :=
    fun event member => ⟨truthful event member, honest event member⟩
  obtain ⟨opens, standsLast⟩ := rounds_move sound follows later long stands faithful
  exact ⟨opens, standsLast, rounds_keep sound later long stands faithful⟩

theorem lostReceipt_truthful : ∀ event ∈ lostReceipt, skippedStartChain.Truthful event := by
  have start : (⟨"H5", 5, "H1", "H3", "H3", 0⟩ : Block) ∈ skippedStartChain.epoch 2 :=
    List.mem_cons_self
  have next : (⟨"H6", 6, "H3", "H5", "H5", 0⟩ : Block) ∈ skippedStartChain.epoch 3 :=
    List.mem_cons_self
  have before : (⟨"H3", 3, "G", "H2", "H1", 0⟩ : Block) ∈ skippedStartChain.epoch 1 :=
    List.mem_cons_of_mem _ List.mem_cons_self
  simp only [lostReceipt, List.forall_mem_cons, Lineage.Truthful, true_and]
  exact ⟨⟨⟨2, start⟩, rfl⟩, ⟨⟨2, start⟩, rfl⟩, ⟨⟨2, start⟩, rfl⟩, ⟨⟨3, next⟩, rfl⟩,
    ⟨⟨1, before⟩, rfl⟩, List.forall_mem_nil _⟩

theorem lostReceipt_honest : ∀ event ∈ lostReceipt, skippedStartChain.Honest event := by
  have next : (⟨"H6", 6, "H3", "H5", "H5", 0⟩ : Block) ∈ skippedStartChain.epoch 3 :=
    List.mem_cons_self
  simp only [lostReceipt, List.forall_mem_cons, Lineage.Honest, true_and]
  refine ⟨fun _ b shown => ?_, List.forall_mem_nil _⟩
  rw [Lineage.eq_of_shows_hash next shown]

theorem loop_opens_epochs_lostReceipt :
    (loop ⟨⟨1, 3⟩, ⟨1, 1⟩⟩ .standard 2).Runs lostReceipt none ∧
    atFive.Follows lostReceipt [⟨6, "H5", "H6"⟩] (atFive.store ⟨6, "H5", "H6"⟩) ∧
    skippedStartChain.StandsAt atFive 2 ∧
    (∀ event ∈ lostReceipt, skippedStartChain.Truthful event) ∧
    (∀ event ∈ lostReceipt, skippedStartChain.Honest event) ∧
    skippedStartChain.opening? 3 = some ⟨6, "H5", "H6"⟩ ∧
    skippedStartChain.StandsAt (atFive.store ⟨6, "H5", "H6"⟩) 3 := by
  have stands : skippedStartChain.StandsAt atFive 2 :=
    ⟨⟨"H5", 5, "H1", "H3", "H3", 0⟩, rfl, rfl, fun impossible => by cases impossible⟩
  obtain ⟨opens, standsLast, -⟩ := loop_opens_epochs lostReceipt_runs lostReceipt_follows
    (by decide) (by decide) stands lostReceipt_truthful lostReceipt_honest
  exact ⟨lostReceipt_runs, lostReceipt_follows, stands, lostReceipt_truthful, lostReceipt_honest,
    opens 0 Nat.zero_lt_one, standsLast⟩

end Epoch

end HeaderRelay
