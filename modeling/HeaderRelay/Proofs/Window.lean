import HeaderRelay.Proofs.Boundary

/-
When the boundary search succeeds, against a node that has the whole chain. The search looks at
pairs of neighbouring heights, so it finds a boundary exactly where both sides of it lie at
neighbouring heights; one with a skipped height in its gap is passed over.
-/

set_option autoImplicit false

namespace HeaderRelay

/-- An epoch with the epoch id of epoch `k` ends at a height, and the next begins right after. -/
def Lineage.TurnsAt (c : Lineage) (k height : Nat) : Prop :=
  ∃ i last first, i - 1 = k - 1 ∧ c.last? i = some last ∧ c.first? (i + 1) = some first ∧
    last.height = height ∧ first.height = height + 1

/-- Every block that a node was asked for was answered from the whole chain. -/
def Lineage.ServesAll (c : Lineage) (node : Endpoint) (trace : Trace relaying) : Prop :=
  ∀ id reply, ⟨.block node id, some reply⟩ ∈ trace → c.Serves id reply

/-- Surroundings in which a node has the whole chain and the ledger holds two hashes for a
height. -/
structure Lineage.Serving {σ : Type} (c : Lineage) (node : Endpoint) (height : Nat)
    (saved : EpochHashes) (answer : (call : Call) → σ → call.Answer × σ) : Prop where
  blocks : ∀ id s, c.Serves id (answer (.block node id) s).1
  hashes : ∀ s, (answer (.epochHashes height) s).1 = .ok saved

namespace Lineage

variable {c : Lineage} {node : Endpoint} {trace : Trace relaying}

theorem ServesAll.shows {id : BlockId} {block : Block} (serves : c.ServesAll node trace)
    (shown : Node.Shown node id block trace) : c.Shows id block :=
  serves id _ shown

theorem ServesAll.not_shows {id : BlockId} (serves : c.ServesAll node trace)
    (unknown : Node.Unknown node id trace) (block : Block) : ¬ c.Shows id block :=
  serves id _ unknown block

theorem ServesAll.not_refused (serves : c.ServesAll node trace) :
    ¬ Node.Refused node trace := by
  rintro ⟨id, ⟨fault, refused⟩ | refused⟩
  · exact serves id _ refused
  · exact serves id _ refused

/-- The last block before an epoch that has blocks is one of the chain. -/
theorem exists_shows_closing {k : Nat} (later : 1 ≤ k) (present : c.epoch k ≠ []) :
    ∃ b, c.Shows (.hash (c.closing k)) b := by
  obtain ⟨j, rfl⟩ := Nat.exists_eq_add_of_le' later
  obtain ⟨a, member⟩ := List.exists_mem_of_ne_nil _ present
  obtain ⟨last, atEnd⟩ := exists_last (epoch_ne_nil member (Nat.le_succ j))
  exact ⟨last, ⟨j, mem_of_last? atEnd⟩, (closing_succ atEnd).symm⟩

end Lineage

/-- Surroundings with some blocks and the hashes of a checkpoint, which refuse all else. -/
def archive (blocks : List Block) (saved : EpochHashes) :
    (call : Call) → Unit → call.Answer × Unit
  | .block _ id, s => (.ok ((blocks.find? (id.Names ·)).elim (.absent .unknown) .found), s)
  | .epochHashes _, s => (.ok saved, s)
  | .clock, s => ((0 : Nat), s)
  | .wait _, s | .note _, s => ((), s)
  | .head _, s | .checkpoint, s | .commit _ _ _, s | .submit _ _, s | .isProofed _, s
  | .prove _, s | .publish _, s | .fetch _, s | .save _, s | .mark _ _, s =>
      (.error ⟨.internal, "*"⟩, s)

/-- All blocks of a chain and the hashes of a checkpoint are what a scan needs. -/
theorem Lineage.serving_archive (c : Lineage) (node : Endpoint) (height : Nat)
    (saved : EpochHashes) {blocks : List Block} (all : ∀ b, b ∈ blocks ↔ ∃ i, b ∈ c.epoch i) :
    c.Serving node height saved (archive blocks saved) := by
  refine ⟨fun id s => ?_, fun s => rfl⟩
  cases found : blocks.find? (id.Names ·) with
  | some b =>
    simp only [archive, found, Option.elim_some, Lineage.Serves]
    exact ⟨(all b).mp (List.mem_of_find?_eq_some found), by simpa using List.find?_some found⟩
  | none =>
    simp only [archive, found, Option.elim_none, Lineage.Serves]
    rintro b ⟨inChain, named⟩
    simpa [named] using List.find?_eq_none.mp found b ((all b).mpr inChain)

namespace Epoch

variable {c : Lineage} {node : Endpoint} {trace : Trace relaying} {start : Block}
  {expected drift k : Nat}

theorem turnsAt_of_found {boundary : Boundary} (serves : c.ServesAll node trace)
    (inEpoch : start ∈ c.epoch k) (found : Found node start expected boundary trace) :
    c.TurnsAt k (expected + boundary.drift) := by
  obtain ⟨i, sameEpoch, atEnd, atStart, heightLast, heightFirst⟩ :=
    found.turns (fun _ _ shown => serves.shows shown) inEpoch
  exact ⟨i, _, _, sameEpoch, atEnd, atStart, heightLast, heightFirst⟩

/-- Where an epoch turns, the search does not miss it. -/
theorem not_missed_of_turnsAt (serves : c.ServesAll node trace) (inEpoch : start ∈ c.epoch k)
    (turns : c.TurnsAt k (expected + drift)) : ¬ Missed node start expected drift trace := by
  obtain ⟨i, last, first, sameEpoch, atEnd, atStart, heightLast, heightFirst⟩ := turns
  have memberLast := Lineage.mem_of_last? atEnd
  have memberFirst := Lineage.mem_of_first? atStart
  rintro (unknown | unknown | ⟨last', first', shownLast, shownFirst, links⟩)
  · exact serves.not_shows unknown last ⟨⟨i, memberLast⟩, heightLast⟩
  · exact serves.not_shows unknown first ⟨⟨i + 1, memberFirst⟩, heightFirst⟩
  · rw [← heightLast] at shownLast
    rw [← heightFirst] at shownFirst
    obtain rfl := Lineage.eq_of_shows_height memberLast (serves.shows shownLast)
    obtain rfl := Lineage.eq_of_shows_height memberFirst (serves.shows shownFirst)
    have neighbours : first'.height = last'.height + 1 := by rw [heightFirst, heightLast]
    have isBoundary := (Lineage.isBoundary_iff inEpoch memberLast memberFirst neighbours).mpr
      ⟨sameEpoch, atEnd, atStart⟩
    rw [links] at isBoundary
    cases isBoundary

/-- A scan against a node that has the whole chain ends well exactly if an epoch turns within the
window, and ends in the fault of a search in vain if none does. -/
theorem scan_run {σ : Type} {answer : (call : Call) → σ → call.Answer × σ} {height : Nat}
    (search : Search) (s : σ)
    (serving : c.Serving node height ⟨c.closing k, start.hash⟩ answer) (later : 1 ≤ k)
    (inEpoch : start ∈ c.epoch k) :
    let expected := height + search.epochLength - 1
    let outcome := ((scan search node height).run.run answer s).1
    (∃ link, outcome = .ok link ∧ ∃ d < search.maxDrift, c.TurnsAt k (expected + d)) ∨
      (outcome = .error (noBoundary search expected) ∧
        ∀ d < search.maxDrift, ¬ c.TurnsAt k (expected + d)) := by
  intro expected outcome
  obtain ⟨trace, run, answers⟩ := Action.exists_runs answer s (scan search node height)
  have serves : c.ServesAll node trace :=
    fun id _ => Trace.reply_of_forall answers (serving.blocks id)
  have read : ∀ reply, ⟨.epochHashes height, some reply⟩ ∈ trace →
      reply = .ok ⟨c.closing k, start.hash⟩ :=
    fun _ => Trace.reply_of_forall (P := (· = _)) answers serving.hashes
  have isStart : ∀ b, Node.Shown node (.hash start.hash) b trace → b = start :=
    fun b shown => Lineage.eq_of_shows_hash inEpoch (serves.shows shown)
  change (scan search node height).run.Runs trace (some outcome) at run
  cases ended : outcome with
  | ok link =>
    rw [ended] at run
    obtain ⟨saved, shown, boundary, _, readSaved, shownStart, _, within, found, _⟩ :=
      scan_runs_ok run
    cases read _ readSaved
    obtain rfl := isStart shown shownStart
    exact .inl ⟨link, rfl, boundary.drift, within, turnsAt_of_found serves inEpoch found⟩
  | error fault =>
    rw [ended] at run
    rcases scan_runs_error run with ⟨other, failed⟩ | refused | ⟨saved, readSaved, unknown⟩ |
      ⟨rfl, saved, shown, readSaved, shownStart, missed⟩
    · cases read _ failed
    · exact absurd refused serves.not_refused
    · cases read _ readSaved
      rcases unknown with unknown | unknown
      · exact absurd ⟨⟨k, inEpoch⟩, rfl⟩ (serves.not_shows unknown start)
      · obtain ⟨b, closes⟩ := Lineage.exists_shows_closing later (List.ne_nil_of_mem inEpoch)
        exact absurd closes (serves.not_shows unknown b)
    · cases read _ readSaved
      obtain rfl := isStart shown shownStart
      refine .inr ⟨rfl, fun d within turns => ?_⟩
      exact not_missed_of_turnsAt serves inEpoch turns (missed d within)

/-- Where an epoch may turn within the window: at its own end, and for the first epoch that has
one before it also at the end of that one, which has the same epoch id. -/
theorem exists_turnsAt_iff {width : Nat} {last first : Block} (later : 1 ≤ k)
    (atStart : c.first? k = some start) (atEnd : c.last? k = some last)
    (next : c.first? (k + 1) = some first) (due : expected ≤ last.height)
    (inTime : first.height ≤ expected + width) :
    (∃ d < width, c.TurnsAt k (expected + d)) ↔
      first.height = last.height + 1 ∨ (k = 1 ∧ ∃ before, c.last? 0 = some before ∧
        expected ≤ before.height ∧ start.height = before.height + 1) := by
  constructor
  · rintro ⟨d, within, i, last', first', sameEpoch, atEnd', next', heightLast, heightFirst⟩
    by_cases own : i = k
    · subst own
      cases atEnd.symm.trans atEnd'
      cases next.symm.trans next'
      exact .inl (by omega)
    · obtain ⟨rfl, rfl⟩ : k = 1 ∧ i = 0 := by omega
      cases atStart.symm.trans next'
      exact .inr ⟨rfl, last', atEnd', by omega, by omega⟩
  · rintro (neighbours | ⟨rfl, before, atEnd', due', neighbours⟩)
    · exact ⟨last.height - expected, by omega, k, last, first, rfl, atEnd, next, by omega,
        by omega⟩
    · have notAfter := Lineage.first_le atStart (Lineage.mem_of_last? atEnd)
      have rises := (Lineage.parents_of_ends atEnd next).1
      exact ⟨before.height - expected, by omega, 0, before, start, rfl, atEnd', atStart,
        by omega, by omega⟩

/-- The boundary of an epoch that ends and begins again within the window is found exactly if no
height between its two sides is skipped; with a skipped height in the gap the scan is in vain, and
stays so. -/
theorem scan_finds_iff_neighbours {σ : Type} {answer : (call : Call) → σ → call.Answer × σ}
    {height : Nat} {last first : Block} (search : Search) (s : σ)
    (serving : c.Serving node height ⟨c.closing k, start.hash⟩ answer) (later : 1 ≤ k)
    (atStart : c.first? k = some start) (atEnd : c.last? k = some last)
    (next : c.first? (k + 1) = some first)
    (due : height + search.epochLength - 1 ≤ last.height)
    (inTime : first.height ≤ height + search.epochLength - 1 + search.maxDrift) :
    let outcome := ((scan search node height).run.run answer s).1
    ((∃ link, outcome = .ok link) ↔
      first.height = last.height + 1 ∨ (k = 1 ∧ ∃ before, c.last? 0 = some before ∧
        height + search.epochLength - 1 ≤ before.height ∧
        start.height = before.height + 1)) ∧
    ((∃ link, outcome = .ok link) ∨
      outcome = .error (noBoundary search (height + search.epochLength - 1))) := by
  intro outcome
  rw [← exists_turnsAt_iff later atStart atEnd next due inTime]
  rcases scan_run search s serving later (Lineage.mem_of_first? atStart) with
    ⟨link, found, turns⟩ | ⟨failed, never⟩
  · exact ⟨⟨fun _ => turns, fun _ => ⟨link, found⟩⟩, .inl ⟨link, found⟩⟩
  · refine ⟨⟨?_, ?_⟩, .inr failed⟩
    · rintro ⟨link, found⟩
      cases failed.symm.trans found
    · rintro ⟨d, within, turns⟩
      exact absurd turns (never d within)

/-- Epochs of which the block producer of height 4 left out the start. -/
def skippedStart : List (List Block) :=
  [[⟨"H0", 0, "G", "", "G", 0⟩, ⟨"H1", 1, "G", "H0", "G", 0⟩],
    [⟨"H2", 2, "G", "H1", "H1", 0⟩, ⟨"H3", 3, "G", "H2", "H1", 0⟩],
    [⟨"H5", 5, "H1", "H3", "H3", 0⟩],
    [⟨"H6", 6, "H3", "H5", "H5", 0⟩]]

def skippedStartChain : Lineage :=
  .ofEpochs "G" skippedStart (by decide) (by decide) (by decide) (by decide) (by decide)

theorem skippedStart_serving (height : Nat) (saved : EpochHashes) :
    skippedStartChain.Serving .primary height saved (archive skippedStart.flatten saved) :=
  Lineage.serving_archive _ _ _ _ fun _ => mem_flatten_iff

/-- The epoch before the skipped height turns within the window, but its boundary is not found. -/
theorem scan_misses_skipped_start :
    skippedStartChain.Serving .primary 2 ⟨"H1", "H2"⟩
      (archive skippedStart.flatten ⟨"H1", "H2"⟩) ∧
    skippedStartChain.closing 1 = "H1" ∧
    skippedStartChain.first? 1 = some ⟨"H2", 2, "G", "H1", "H1", 0⟩ ∧
    skippedStartChain.last? 1 = some ⟨"H3", 3, "G", "H2", "H1", 0⟩ ∧
    skippedStartChain.first? 2 = some ⟨"H5", 5, "H1", "H3", "H3", 0⟩ ∧
    2 + 2 - 1 ≤ 3 ∧ 5 ≤ 2 + 2 - 1 + 2 ∧
    ¬ ∃ link, ((scan ⟨2, 2⟩ .primary 2).run.run
      (archive skippedStart.flatten ⟨"H1", "H2"⟩) ()).1 = .ok link := by
  refine ⟨skippedStart_serving _ _, rfl, rfl, rfl, rfl, by decide, by decide, ?_⟩
  rintro ⟨link, found⟩
  have failed : ((scan ⟨2, 2⟩ .primary 2).run.run
      (archive skippedStart.flatten ⟨"H1", "H2"⟩) ()).1 =
      .error (noBoundary ⟨2, 2⟩ 3) := rfl
  cases failed.symm.trans found

/-- The next boundary has no gap, and is found. -/
theorem scan_finds_after_skipped_start :
    skippedStartChain.Serving .primary 5 ⟨"H3", "H5"⟩
      (archive skippedStart.flatten ⟨"H3", "H5"⟩) ∧
    ∃ link, ((scan ⟨1, 1⟩ .primary 5).run.run
      (archive skippedStart.flatten ⟨"H3", "H5"⟩) ()).1 = .ok link := by
  refine ⟨skippedStart_serving _ _, ?_⟩
  have atStart : skippedStartChain.first? 2 = some ⟨"H5", 5, "H1", "H3", "H3", 0⟩ := rfl
  have next : skippedStartChain.first? 3 = some ⟨"H6", 6, "H3", "H5", "H5", 0⟩ := rfl
  have found := scan_finds_iff_neighbours ⟨1, 1⟩ () (skippedStart_serving 5 _) (by decide)
    atStart atStart next (by decide) (by decide)
  exact found.1.mpr (.inl rfl)

end Epoch

end HeaderRelay
