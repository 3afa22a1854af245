import HeaderRelay.Proofs.Window
import HeaderRelay.Relay.Metrics

set_option autoImplicit false

namespace HeaderRelay.Epoch

open Node (Refused)

/-- What a node that shows `view` at each height makes of a look at one. -/
def look (node : Endpoint) (view : Nat → Except Fault Sighting) (height : Nat) :
    Except Fault (Option Block) :=
  match view height with
  | .ok (.found block) => .ok (some block)
  | .ok (.absent .unknown) => .ok none
  | .ok (.absent .notSynced) =>
      .error ⟨.notSynced, node.word ++ " node is not synced up to height " ++ toString height⟩
  | .error fault => .error fault

/-- The blocks at a height and the next one are the end of the epoch of `start` and the beginning
of the one after it. -/
structure Turn (view : Nat → Except Fault Sighting) (start : Block) (height : Nat)
    (last first : Block) : Prop where
  last_found : view height = .ok (.found last)
  first_found : view (height + 1) = .ok (.found first)
  epochId : start.epochId = last.epochId
  nextEpochId : last.hash = first.nextEpochId
  prevHash : last.hash = first.prevHash

def probe (node : Endpoint) (height : Nat) : List Call :=
  [.note .probed, .block node (.height height), .block node (.height (height + 1))]

/-- The questions of probes at so many heights in a row. -/
def probes (node : Endpoint) (expected count : Nat) : List Call :=
  (List.range count).flatMap fun d => probe node (expected + d)

/-- The questions up to the first look at a height that is so far above the expected one. -/
def looks (node : Endpoint) (expected : Nat) : Nat → List Call
  | 0 => [.note .probed, .block node (.height expected)]
  | above + 1 => probes node expected (above + 1)

section Verdicts

variable (node : Endpoint) (view : Nat → Except Fault Sighting) (start : Block)
  (expected maxDrift : Nat)

/-- No look at the first so many heights is refused. -/
def Clear (count : Nat) : Prop := ∀ i < count, ∃ found, look node view (expected + i) = .ok found

/-- The first turn is at a drift that is searched, and no look up to it is refused. -/
structure Matches (boundary : Boundary) : Prop where
  within : boundary.drift < maxDrift
  turn : Turn view start (expected + boundary.drift) boundary.last boundary.first
  least : ∀ d < boundary.drift, ∀ last first, ¬ Turn view start (expected + d) last first
  clear : Clear node view expected (boundary.drift + 2)

/-- A look is refused before there is a turn, and none before it is. -/
structure Refuses (above : Nat) (fault : Fault) : Prop where
  probed : 0 < maxDrift
  within : above ≤ maxDrift
  refused : look node view (expected + above) = .error fault
  unturned : ∀ d < above, ∀ last first, ¬ Turn view start (expected + d) last first
  clear : Clear node view expected above

structure Exhausts : Prop where
  clear : 0 < maxDrift → Clear node view expected (maxDrift + 1)
  unturned : ∀ d < maxDrift, ∀ last first, ¬ Turn view start (expected + d) last first

/-- A probe at a height is made in vain. -/
structure Vain (height : Nat) : Prop where
  last : ∃ found, look node view height = .ok found
  first : ∃ found, look node view (height + 1) = .ok found
  unturned : ∀ last first, ¬ Turn view start height last first

/-- The ways in which a probe halts the search. -/
inductive Halts (drift : Nat) : List Call → Except Fault (Option Boundary) → Prop
  | turned {last first : Block} (turn : Turn view start (expected + drift) last first) :
      Halts drift (probe node (expected + drift)) (.ok (some ⟨last, first, drift⟩))
  /-- The look at the lower height is refused. -/
  | below {fault : Fault} (refused : look node view (expected + drift) = .error fault) :
      Halts drift [.note .probed, .block node (.height (expected + drift))] (.error fault)
  /-- The look at the upper height is refused. -/
  | above {fault : Fault} (seen : ∃ found, look node view (expected + drift) = .ok found)
      (refused : look node view (expected + drift + 1) = .error fault) :
      Halts drift (probe node (expected + drift)) (.error fault)

end Verdicts

variable {node : Endpoint} {view : Nat → Except Fault Sighting} {start : Block}
  {expected maxDrift count drift height : Nat} {trace : Trace relaying} {search : Search}
  {boundary : Boundary} {fault : Fault}

theorem look_of_found {block : Block} (found : view height = .ok (.found block)) :
    look node view height = .ok (some block) := by
  simp [look, found]

theorem found_of_look {block : Block} (seen : look node view height = .ok (some block)) :
    view height = .ok (.found block) := by
  revert seen
  rcases shown : view height with fault | (block | (_ | _)) <;> simp [look, shown]

theorem turn_iff {last first : Block} (lastSeen : look node view height = .ok (some last))
    (firstSeen : look node view (height + 1) = .ok (some first)) :
    Turn view start height last first ↔ isBoundary start last first = true := by
  simp only [isBoundary, Bool.and_eq_true, beq_iff_eq, and_assoc]
  constructor
  · rintro ⟨-, -, epochId, nextEpochId, prevHash⟩
    exact ⟨epochId, nextEpochId, prevHash⟩
  · rintro ⟨epochId, nextEpochId, prevHash⟩
    exact ⟨found_of_look lastSeen, found_of_look firstSeen, epochId, nextEpochId, prevHash⟩

/-- Whenever a node is asked for a height it shows what it has there. -/
def Sees (node : Endpoint) (view : Nat → Except Fault Sighting) (trace : Trace relaying) : Prop :=
  ∀ height reply, ⟨.block node (.height height), some reply⟩ ∈ trace → reply = view height

theorem Sees.mono {before : Trace relaying} (sees : Sees node view trace) (sub : before ⊆ trace) :
    Sees node view before :=
  fun height reply member => sees height reply (sub member)

theorem produced?_looks {ended : Except Fault (Option Block)} (sees : Sees node view trace)
    (run : (Node.produced? node height).run.Runs trace (some ended)) :
    trace.calls = [.block node (.height height)] ∧ ended = look node view height := by
  obtain ⟨fault, rfl, rfl⟩ | ⟨sighting, _, rfl, run₁⟩ :=
    Action.question_bind_ended run Action.block_runs
  · have shown := sees height _ List.mem_cons_self
    exact ⟨rfl, by simp [look, ← shown]⟩
  · have shown := sees height _ List.mem_cons_self
    rcases sighting with block | (_ | _)
    · obtain ⟨rfl, same⟩ := Action.pure_runs run₁
      exact ⟨rfl, by simp [look, ← shown, Option.some.inj same]⟩
    · obtain ⟨rfl, same⟩ := Action.pure_runs run₁
      exact ⟨rfl, by simp [look, ← shown, Option.some.inj same]⟩
    · obtain ⟨rfl, same⟩ := Action.fail_runs run₁
      exact ⟨rfl, by simp [look, ← shown, Option.some.inj same]⟩

/-- A probe looks at two neighbouring heights, unless the first look is refused, and goes on with
what it saw, unless the second one is. -/
theorem probe_looks {α : Type} {f : Option Block → Option Block → Action α} {ended : Except Fault α}
    (sees : Sees node view trace)
    (run : (do
      Action.note .probed
      let last ← Node.produced? node height
      let first ← Node.produced? node (height + 1)
      f last first : Action α).run.Runs trace (some ended)) :
    (∃ fault, look node view height = .error fault ∧ ended = .error fault ∧
      trace.calls = [.note .probed, .block node (.height height)]) ∨
    ∃ last, look node view height = .ok last ∧
      ((∃ fault, look node view (height + 1) = .error fault ∧ ended = .error fault ∧
        trace.calls = probe node height) ∨
      ∃ first after, look node view (height + 1) = .ok first ∧
        trace.calls = probe node height ++ Trace.calls after ∧ after ⊆ trace ∧
        (f last first).run.Runs after (some ended)) := by
  obtain ⟨pair, rfl, run₁⟩ := Action.note_bind_ended run
  have seesPair := sees.mono (List.subset_cons_self _ pair)
  obtain ⟨last, one, single, rfl, askedLast, run₂⟩ | ⟨fault, same, askedLast⟩ | ⟨⟨⟩, -⟩ :=
    Action.runs_bind run₁
  · have seesSingle := seesPair.mono (List.subset_append_right one single)
    obtain ⟨callsOne, lastSeen⟩ :=
      produced?_looks (seesPair.mono (List.subset_append_left one single)) askedLast
    refine .inr ⟨last, lastSeen.symm, ?_⟩
    obtain ⟨first, two, rest, rfl, askedFirst, run₃⟩ | ⟨fault, same, askedFirst⟩ | ⟨⟨⟩, -⟩ :=
      Action.runs_bind run₂
    · obtain ⟨callsTwo, firstSeen⟩ :=
        produced?_looks (seesSingle.mono (List.subset_append_left two rest)) askedFirst
      refine .inr ⟨first, rest, firstSeen.symm, ?_, ?_, run₃⟩
      · simp [callsOne, callsTwo, probe]
      · apply List.subset_cons_of_subset
        apply List.subset_append_of_subset_right
        exact List.subset_append_right two rest
    · obtain ⟨callsTwo, firstSeen⟩ := produced?_looks seesSingle askedFirst
      refine .inl ⟨fault, firstSeen.symm, Option.some.inj same, ?_⟩
      simp [callsOne, callsTwo, probe]
  · obtain ⟨callsOne, lastSeen⟩ := produced?_looks seesPair askedLast
    refine .inl ⟨fault, lastSeen.symm, Option.some.inj same, ?_⟩
    simp [callsOne]

/-- A probe halts the search, or is in vain and leaves the rest to the next heights. -/
theorem probe_halts {ended : Except Fault (Option Boundary)} (sees : Sees node view trace)
    (run : (findFrom node start expected (count + 1) drift).run.Runs trace (some ended)) :
    Halts node view start expected drift trace.calls ended ∨
    (Vain node view start (expected + drift) ∧
      ∃ after, trace.calls = probe node (expected + drift) ++ Trace.calls after ∧ after ⊆ trace ∧
        (findFrom node start expected count (drift + 1)).run.Runs after (some ended)) := by
  obtain ⟨fault, refused, rfl, asked⟩ | ⟨last, lastSeen, ⟨fault, refused, rfl, asked⟩ | looked⟩ :=
    probe_looks sees run
  · rw [asked]
    exact .inl (.below refused)
  · rw [asked]
    exact .inl (.above ⟨last, lastSeen⟩ refused)
  obtain ⟨first, after, firstSeen, asked, inTrace, run₁⟩ := looked
  -- The probe is in vain in four ways, and the search goes on alike after each.
  have next (unturned : ∀ l f, last = some l → first = some f → isBoundary start l f = false)
      (run₂ : (findFrom node start expected count (drift + 1)).run.Runs after (some ended)) :
      Vain node view start (expected + drift) ∧
      ∃ after, trace.calls = probe node (expected + drift) ++ Trace.calls after ∧ after ⊆ trace ∧
        (findFrom node start expected count (drift + 1)).run.Runs after (some ended) := by
    refine ⟨⟨⟨last, lastSeen⟩, ⟨first, firstSeen⟩, ?_⟩, after, asked, inTrace, run₂⟩
    intro l f turn
    cases lastSeen.symm.trans (look_of_found turn.last_found)
    cases firstSeen.symm.trans (look_of_found turn.first_found)
    have links := (turn_iff lastSeen firstSeen).mp turn
    cases (unturned l f rfl rfl).symm.trans links
  rcases last with _ | last <;> rcases first with _ | first
  · exact .inr (next (fun _ _ none => nomatch none) run₁)
  · exact .inr (next (fun _ _ none => nomatch none) run₁)
  · exact .inr (next (fun _ _ _ none => nomatch none) run₁)
  · dsimp only at run₁
    split at run₁
    · rename_i links
      obtain ⟨rfl, same⟩ := Action.pure_runs run₁
      cases same
      rw [asked, Trace.calls_nil, List.append_nil]
      exact .inl (.turned ((turn_iff lastSeen firstSeen).mpr links))
    · rename_i links
      refine .inr (next ?_ run₁)
      rintro l f ⟨⟩ ⟨⟩
      simpa only [Bool.not_eq_true] using links

/-- A search makes probes in vain, and then one that halts it, unless all were in vain. -/
theorem findFrom_halts {ended : Except Fault (Option Boundary)} (sees : Sees node view trace)
    (run : (findFrom node start expected count drift).run.Runs trace (some ended)) :
    ∃ n rest, (∀ d, drift ≤ d → d < drift + n → Vain node view start (expected + d)) ∧
      trace.calls = ((List.range' drift n).flatMap fun d => probe node (expected + d)) ++ rest ∧
      ((n = count ∧ rest = [] ∧ ended = .ok none) ∨
        (n < count ∧ Halts node view start expected (drift + n) rest ended)) := by
  induction count generalizing drift trace with
  | zero =>
    obtain ⟨rfl, same⟩ := Action.pure_runs run
    refine ⟨0, [], ?_, rfl, .inl ⟨rfl, rfl, Option.some.inj same⟩⟩
    intro d lower upper
    exact absurd upper (Nat.not_lt_of_le lower)
  | succ count ih =>
    obtain halts | ⟨vain, after, asked, inTrace, run₁⟩ := probe_halts sees run
    · refine ⟨0, trace.calls, ?_, rfl, .inr ⟨Nat.succ_pos count, halts⟩⟩
      intro d lower upper
      exact absurd upper (Nat.not_lt_of_le lower)
    · obtain ⟨n, rest, vains, asked', stops⟩ := ih (sees.mono inTrace) run₁
      refine ⟨n + 1, rest, ?_, ?_, ?_⟩
      · intro d lower upper
        obtain rfl | later := Nat.eq_or_lt_of_le lower
        · exact vain
        · exact vains d later (by omega)
      · simp [asked, asked', List.range'_succ]
      · rw [Nat.add_right_comm, Nat.add_assoc drift n 1] at stops
        obtain ⟨rfl, ended⟩ | ⟨within, halts⟩ := stops
        · exact .inl ⟨rfl, ended⟩
        · exact .inr ⟨Nat.succ_lt_succ within, halts⟩

theorem probes_succ (node : Endpoint) (expected count : Nat) :
    probes node expected (count + 1) =
      probes node expected count ++ probe node (expected + count) := by
  simp [probes, List.range_succ]

theorem Clear.succ (clear : Clear node view expected count)
    (seen : ∃ found, look node view (expected + count) = .ok found) :
    Clear node view expected (count + 1) := by
  intro i within
  obtain before | rfl := Nat.lt_succ_iff_lt_or_eq.mp within
  · exact clear i before
  · exact seen

theorem clear_of_vain (vain : ∀ d < count, Vain node view start (expected + d)) :
    Clear node view expected count :=
  fun d within => (vain d within).last

/-- Where a search that made probes in vain halts is its first match or its first refusal. -/
theorem Halts.verdict {asked : List Call} {ended : Except Fault (Option Boundary)}
    (vain : ∀ d < drift, Vain node view start (expected + d)) (within : drift < maxDrift)
    (halts : Halts node view start expected drift asked ended) :
    (∃ boundary, Matches node view start expected maxDrift boundary ∧
      ended = .ok (some boundary) ∧
      probes node expected drift ++ asked = probes node expected (boundary.drift + 1)) ∨
    ∃ above fault, Refuses node view start expected maxDrift above fault ∧
      ended = .error fault ∧ probes node expected drift ++ asked = looks node expected above := by
  have clear : Clear node view expected drift := clear_of_vain vain
  cases halts with
  | @turned last first turn =>
    have both : Clear node view expected (drift + 2) :=
      (clear.succ ⟨_, look_of_found turn.last_found⟩).succ ⟨_, look_of_found turn.first_found⟩
    exact .inl ⟨_, ⟨within, turn, fun d before => (vain d before).unturned, both⟩, rfl,
      (probes_succ ..).symm⟩
  | @below fault refused =>
    cases drift with
    | zero =>
      refine .inr ⟨0, fault, ⟨within, Nat.zero_le _, refused, ?_, clear⟩, rfl, rfl⟩
      intro d before
      exact absurd before (Nat.not_lt_zero d)
    | succ drift =>
      -- The probe before has looked at the same height.
      obtain ⟨found, seen⟩ := (vain drift (Nat.lt_succ_self drift)).first
      cases refused.symm.trans seen
  | @above fault seen refused =>
    refine .inr ⟨drift + 1, fault, ⟨Nat.zero_lt_of_lt within, within, refused, ?_, clear.succ seen⟩,
      rfl, (probes_succ ..).symm⟩
    intro d before last first turn
    obtain before | rfl := Nat.lt_succ_iff_lt_or_eq.mp before
    · exact (vain d before).unturned last first turn
    · cases refused.symm.trans (look_of_found turn.first_found)

theorem exhausts_of_vain (vain : ∀ d < maxDrift, Vain node view start (expected + d)) :
    Exhausts node view start expected maxDrift := by
  refine ⟨fun probed => ?_, fun d within => (vain d within).unturned⟩
  obtain ⟨drift, rfl⟩ := Nat.exists_eq_add_one_of_ne_zero probed.ne'
  exact (clear_of_vain vain).succ (vain drift (Nat.lt_succ_self drift)).first

/-- A search finds the first turn, reports the first refusal, or exhausts its probes. -/
theorem findBoundary_verdict {ended : Except Fault Boundary} (sees : Sees node view trace)
    (run : (findBoundary node start expected search.maxDrift).run.Runs trace (some ended)) :
    (∃ boundary, Matches node view start expected search.maxDrift boundary ∧
      ended = .ok boundary ∧ trace.calls = probes node expected (boundary.drift + 1)) ∨
    (∃ above fault, Refuses node view start expected search.maxDrift above fault ∧
      ended = .error fault ∧ trace.calls = looks node expected above) ∨
    (Exhausts node view start expected search.maxDrift ∧
      ended = .error (noBoundary search expected) ∧
      trace.calls = probes node expected search.maxDrift) := by
  have searched : ∃ found, (findFrom node start expected search.maxDrift 0).run.Runs trace
      (some found) ∧ ended = found.bind fun boundary =>
        boundary.elim (.error (noBoundary search expected)) .ok := by
    obtain ⟨found, before, after, rfl, searched, run₁⟩ | ⟨fault, same, searched⟩ | ⟨⟨⟩, -⟩ :=
      Action.runs_bind run
    · cases found with
      | some boundary =>
        obtain ⟨rfl, same⟩ := Action.pure_runs run₁
        rw [List.append_nil]
        exact ⟨_, searched, Option.some.inj same⟩
      | none =>
        obtain ⟨rfl, same⟩ := Action.fail_runs run₁
        rw [List.append_nil]
        exact ⟨_, searched, Option.some.inj same⟩
    · exact ⟨_, searched, Option.some.inj same⟩
  obtain ⟨found, run₁, rfl⟩ := searched
  obtain ⟨n, rest, vain, asked, stops⟩ := findFrom_halts sees run₁
  rw [← List.range_eq_range'] at asked
  simp only [Nat.zero_add, Nat.zero_le, forall_const] at vain stops
  obtain ⟨rfl, rfl, rfl⟩ | ⟨within, halts⟩ := stops
  · rw [List.append_nil] at asked
    exact .inr (.inr ⟨exhausts_of_vain vain, rfl, asked⟩)
  · obtain ⟨boundary, first, rfl, same⟩ | ⟨above, fault, refuses, rfl, same⟩ :=
      halts.verdict vain within
    · exact .inl ⟨boundary, first, rfl, asked.trans same⟩
    · exact .inr (.inl ⟨above, fault, refuses, rfl, asked.trans same⟩)

section Exclusion

variable {above : Nat}

theorem Matches.unique {boundary' : Boundary}
    (first : Matches node view start expected maxDrift boundary)
    (first' : Matches node view start expected maxDrift boundary') : boundary = boundary' := by
  obtain ⟨last, next, drift⟩ := boundary
  obtain ⟨last', next', drift'⟩ := boundary'
  have notBefore : ¬ drift < drift' := fun before => first'.least drift before _ _ first.turn
  have notAfter : ¬ drift' < drift := fun after => first.least drift' after _ _ first'.turn
  obtain rfl : drift = drift' := by omega
  cases first.turn.last_found.symm.trans first'.turn.last_found
  cases first.turn.first_found.symm.trans first'.turn.first_found
  rfl

theorem Clear.not_refused (clear : Clear node view expected count) (within : above < count) :
    look node view (expected + above) ≠ .error fault := by
  intro refused
  obtain ⟨found, seen⟩ := clear above within
  cases refused.symm.trans seen

theorem Matches.not_refuses (first : Matches node view start expected maxDrift boundary) :
    ¬ Refuses node view start expected maxDrift above fault := by
  intro refuses
  by_cases within : above < boundary.drift + 2
  · exact first.clear.not_refused within refuses.refused
  · exact refuses.unturned boundary.drift (by omega) _ _ first.turn

theorem Matches.not_exhausts (first : Matches node view start expected maxDrift boundary) :
    ¬ Exhausts node view start expected maxDrift :=
  fun exhausts => exhausts.unturned boundary.drift first.within _ _ first.turn

theorem Refuses.not_exhausts (refuses : Refuses node view start expected maxDrift above fault) :
    ¬ Exhausts node view start expected maxDrift := by
  intro exhausts
  have within : above < maxDrift + 1 := Nat.lt_succ_of_le refuses.within
  exact (exhausts.clear refuses.probed).not_refused within refuses.refused

theorem Refuses.unique {above' : Nat} {fault' : Fault}
    (refuses : Refuses node view start expected maxDrift above fault)
    (refuses' : Refuses node view start expected maxDrift above' fault') :
    above = above' ∧ fault = fault' := by
  have notBefore : ¬ above < above' :=
    fun before => refuses'.clear.not_refused before refuses.refused
  have notAfter : ¬ above' < above :=
    fun after => refuses.clear.not_refused after refuses'.refused
  obtain rfl : above = above' := by omega
  cases refuses.refused.symm.trans refuses'.refused
  exact ⟨rfl, rfl⟩

end Exclusion

section Refusals

variable {above : Nat}

theorem mem_probes {call : Call} :
    call ∈ probes node expected count ↔ ∃ d < count, call ∈ probe node (expected + d) := by
  simp [probes]

theorem mem_looks (node : Endpoint) (expected above : Nat) :
    .block node (.height (expected + above)) ∈ looks node expected above := by
  cases above with
  | zero => exact List.mem_cons_of_mem _ List.mem_cons_self
  | succ above =>
    apply mem_probes.mpr
    exact ⟨above, Nat.lt_succ_self above, List.mem_cons_of_mem _ (List.mem_cons_of_mem _
      List.mem_cons_self)⟩

theorem refused_of_look (refused : look node view height = .error fault)
    (shown : ⟨.block node (.height height), some (view height)⟩ ∈ trace) : Refused node trace := by
  refine ⟨.height height, ?_⟩
  rcases same : view height with fault | (block | (_ | _))
  · exact .inl ⟨fault, same ▸ shown⟩
  · simp [look, same] at refused
  · simp [look, same] at refused
  · exact .inr (same ▸ shown)

theorem not_seen_of_refused (sees : Sees node view trace)
    (refused : (∃ fault, ⟨.block node (.height height), some (.error fault)⟩ ∈ trace) ∨
      ⟨.block node (.height height), some (.ok (.absent .notSynced))⟩ ∈ trace) :
    ¬ ∃ found, look node view height = .ok found := by
  rintro ⟨found, seen⟩
  obtain ⟨fault, member⟩ | member := refused
  · simp [look, ← sees height _ member] at seen
  · simp [look, ← sees height _ member] at seen

theorem Exhausts.not_refused (exhausts : Exhausts node view start expected maxDrift)
    (sees : Sees node view trace) (asked : trace.calls = probes node expected maxDrift) :
    ¬ Refused node trace := by
  rintro ⟨id, refused⟩
  have inTrace : .block node id ∈ trace.calls := by
    rcases refused with ⟨fault, member⟩ | member
    · exact List.mem_map_of_mem member
    · exact List.mem_map_of_mem member
  obtain ⟨d, within, member⟩ := mem_probes.mp (asked ▸ inTrace)
  have clear := exhausts.clear (Nat.zero_lt_of_lt within)
  simp only [probe, List.mem_cons, reduceCtorEq, Call.block.injEq, true_and, List.not_mem_nil,
    or_false, false_or] at member
  obtain rfl | rfl := member
  · exact not_seen_of_refused sees refused (clear d (by omega))
  · exact not_seen_of_refused sees refused (clear (d + 1) (by omega))

end Refusals

theorem notes_eq_filterMap (trace : Trace relaying) :
    trace.notes = trace.calls.filterMap Call.note? :=
  (List.filterMap_map (f := fun event : Event relaying => event.call) (g := Call.note?)).symm

theorem probes_notes (node : Endpoint) (expected count : Nat) :
    (probes node expected count).filterMap Call.note? = List.replicate count .probed := by
  induction count with
  | zero => rfl
  | succ count ih =>
    rw [probes_succ, List.filterMap_append, ih, List.replicate_succ']
    rfl

theorem count_probed (asked : trace.calls = probes node expected count) :
    Metrics.count trace.notes .probed = count := by
  rw [notes_eq_filterMap, asked, probes_notes]
  exact List.count_replicate_self

theorem count_probed_looks {above : Nat} (asked : trace.calls = looks node expected above) :
    Metrics.count trace.notes .probed = max 1 above := by
  cases above with
  | zero =>
    rw [notes_eq_filterMap, asked]
    rfl
  | succ above =>
    rw [count_probed asked]
    omega

section Surroundings

variable {σ : Type} {answer : (call : Call) → σ → call.Answer × σ}

theorem sees_transcript {α : Type} (seen : ∀ h t, (answer (.block node (.height h)) t).1 = view h)
    (p : Relay α) (s : σ) : Sees node view (p.transcript answer s) := by
  intro h reply member
  have answers := (Program.answeredBy_transcript answer p s).exists_reply
  exact Trace.reply_of_forall (P := (· = view h)) answers (seen h) member

theorem shown_in_transcript {α : Type}
    (seen : ∀ h t, (answer (.block node (.height h)) t).1 = view h) {p : Relay α} {s : σ}
    (asked : .block node (.height height) ∈ Trace.calls (p.transcript answer s)) :
    ⟨.block node (.height height), some (view height)⟩ ∈ p.transcript answer s := by
  obtain ⟨⟨call, reply⟩, member, rfl⟩ := List.mem_map.mp asked
  obtain ⟨t, replied⟩ := (Program.answeredBy_transcript answer p s).exists_reply _ member
  dsimp only at replied
  rw [seen] at replied
  exact replied ▸ member

section Search

variable (seen : ∀ h t, (answer (.block node (.height h)) t).1 = view h) (start : Block)
  (expected : Nat) (search : Search) (s : σ)

include seen

theorem search_verdict :
    let heard := (findBoundary node start expected search.maxDrift).run.transcript answer s
    let ended := ((findBoundary node start expected search.maxDrift).run.run answer s).1
    (∃ boundary, Matches node view start expected search.maxDrift boundary ∧
      ended = .ok boundary ∧ heard.calls = probes node expected (boundary.drift + 1)) ∨
    (∃ above fault, Refuses node view start expected search.maxDrift above fault ∧
      ended = .error fault ∧ heard.calls = looks node expected above) ∨
    (Exhausts node view start expected search.maxDrift ∧
      ended = .error (noBoundary search expected) ∧
      heard.calls = probes node expected search.maxDrift) :=
  findBoundary_verdict (sees_transcript seen _ s)
    (Program.runs_transcript answer (findBoundary node start expected search.maxDrift).run s)

theorem Matches.ends (first : Matches node view start expected search.maxDrift boundary) :
    let heard := (findBoundary node start expected search.maxDrift).run.transcript answer s
    ((findBoundary node start expected search.maxDrift).run.run answer s).1 = .ok boundary ∧
      heard.calls = probes node expected (boundary.drift + 1) := by
  obtain ⟨boundary', first', ends⟩ | ⟨above, fault, refuses, -⟩ | ⟨exhausts, -⟩ :=
    search_verdict seen start expected search s
  · obtain rfl := first.unique first'
    exact ends
  · exact absurd refuses first.not_refuses
  · exact absurd exhausts first.not_exhausts

theorem Refuses.ends {above : Nat}
    (refuses : Refuses node view start expected search.maxDrift above fault) :
    let heard := (findBoundary node start expected search.maxDrift).run.transcript answer s
    ((findBoundary node start expected search.maxDrift).run.run answer s).1 = .error fault ∧
      Refused node heard ∧ heard.calls = looks node expected above := by
  obtain ⟨boundary, first, -⟩ | ⟨above', fault', refuses', failed, asked⟩ | ⟨exhausts, -⟩ :=
    search_verdict seen start expected search s
  · exact absurd refuses first.not_refuses
  · obtain ⟨rfl, rfl⟩ := refuses.unique refuses'
    have shown := shown_in_transcript seen (asked ▸ mem_looks node expected above)
    exact ⟨failed, refused_of_look refuses.refused shown, asked⟩
  · exact absurd exhausts refuses.not_exhausts

theorem Exhausts.ends (exhausts : Exhausts node view start expected search.maxDrift) :
    let heard := (findBoundary node start expected search.maxDrift).run.transcript answer s
    ((findBoundary node start expected search.maxDrift).run.run answer s).1 =
        .error (noBoundary search expected) ∧
      ¬ Refused node heard ∧ heard.calls = probes node expected search.maxDrift := by
  obtain ⟨boundary, first, -⟩ | ⟨above, fault, refuses, -⟩ | ⟨-, failed, asked⟩ :=
    search_verdict seen start expected search s
  · exact absurd exhausts first.not_exhausts
  · exact absurd exhausts refuses.not_exhausts
  · exact ⟨failed, exhausts.not_refused (sees_transcript seen _ s) asked, asked⟩

theorem matches_of_ended
    (found : ((findBoundary node start expected search.maxDrift).run.run answer s).1 =
      .ok boundary) : Matches node view start expected search.maxDrift boundary := by
  obtain ⟨boundary', first, same, -⟩ | ⟨above, fault, -, same, -⟩ | ⟨-, same, -⟩ :=
    search_verdict seen start expected search s
  · cases found.symm.trans same
    exact first
  · cases found.symm.trans same
  · cases found.symm.trans same

theorem verdict_of_failed
    (failed : ((findBoundary node start expected search.maxDrift).run.run answer s).1 =
      .error fault) :
    (∃ above, Refuses node view start expected search.maxDrift above fault) ∨
      (Exhausts node view start expected search.maxDrift ∧ fault = noBoundary search expected) := by
  obtain ⟨boundary, -, same, -⟩ | ⟨above, fault', refuses, same, -⟩ | ⟨exhausts, same, -⟩ :=
    search_verdict seen start expected search s
  · cases failed.symm.trans same
  · cases failed.symm.trans same
    exact .inl ⟨above, refuses⟩
  · cases failed.symm.trans same
    exact .inr ⟨exhausts, rfl⟩

end Search

/-- The search against a node that answers by height alone. It finds a boundary exactly where that
is the first turn and no look up to it is refused, ends in a refused look exactly where the first
of these comes before any turn, and has a fault of its own exactly where all its probes are in
vain. It asks for two heights a probe, in order, and for nothing after it has been halted. -/
theorem findBoundary_first_match
    (seen : ∀ height t, (answer (.block node (.height height)) t).1 = view height) (start : Block)
    (expected : Nat) (search : Search) (s : σ) :
    let heard := (findBoundary node start expected search.maxDrift).run.transcript answer s
    let ended := ((findBoundary node start expected search.maxDrift).run.run answer s).1
    (∀ boundary, (ended = .ok boundary ↔
        Matches node view start expected search.maxDrift boundary) ∧
      (ended = .ok boundary → heard.calls = probes node expected (boundary.drift + 1) ∧
        Metrics.count heard.notes .probed = boundary.drift + 1)) ∧
    (∀ fault, (ended = .error fault ∧ Refused node heard ↔
        ∃ above, Refuses node view start expected search.maxDrift above fault) ∧
      ∀ above, Refuses node view start expected search.maxDrift above fault →
        heard.calls = looks node expected above ∧
          Metrics.count heard.notes .probed = max 1 above) ∧
    (∀ fault, (ended = .error fault ∧ ¬ Refused node heard ↔
        Exhausts node view start expected search.maxDrift ∧ fault = noBoundary search expected) ∧
      (ended = .error fault → ¬ Refused node heard →
        heard.calls = probes node expected search.maxDrift ∧
          Metrics.count heard.notes .probed = search.maxDrift)) := by
  intro heard ended
  refine ⟨fun boundary => ⟨⟨?_, ?_⟩, ?_⟩, fun fault => ⟨⟨?_, ?_⟩, ?_⟩, fun fault => ⟨⟨?_, ?_⟩, ?_⟩⟩
  · exact matches_of_ended seen start expected search s
  · exact fun first => (first.ends seen start expected search s).1
  · intro found
    have first := matches_of_ended seen start expected search s found
    obtain ⟨-, asked⟩ := first.ends seen start expected search s
    exact ⟨asked, count_probed asked⟩
  · rintro ⟨failed, refused⟩
    obtain refuses | ⟨exhausts, -⟩ := verdict_of_failed seen start expected search s failed
    · exact refuses
    · exact absurd refused (exhausts.ends seen start expected search s).2.1
  · rintro ⟨above, refuses⟩
    obtain ⟨failed, refused, -⟩ := refuses.ends seen start expected search s
    exact ⟨failed, refused⟩
  · intro above refuses
    obtain ⟨-, -, asked⟩ := refuses.ends seen start expected search s
    exact ⟨asked, count_probed_looks asked⟩
  · rintro ⟨failed, clear⟩
    obtain ⟨above, refuses⟩ | exhausts := verdict_of_failed seen start expected search s failed
    · exact absurd (refuses.ends seen start expected search s).2.1 clear
    · exact exhausts
  · rintro ⟨exhausts, rfl⟩
    obtain ⟨failed, clear, -⟩ := exhausts.ends seen start expected search s
    exact ⟨failed, clear⟩
  · intro failed clear
    obtain ⟨above, refuses⟩ | ⟨exhausts, -⟩ := verdict_of_failed seen start expected search s failed
    · exact absurd (refuses.ends seen start expected search s).2.1 clear
    · obtain ⟨-, -, asked⟩ := exhausts.ends seen start expected search s
      exact ⟨asked, count_probed asked⟩

/-- The first boundary of a chain is found by the second probe. -/
theorem findBoundary_first_match_skippedStart :
    let answer := archive skippedStart.flatten ⟨"G", "H1"⟩
    let view := fun height => (answer (.block .primary (.height height)) ()).1
    let start : Block := ⟨"H0", 0, "G", "", "G", 0⟩
    let boundary : Boundary :=
      ⟨⟨"H1", 1, "G", "H0", "G", 0⟩, ⟨"H2", 2, "G", "H1", "H1", 0⟩, 1⟩
    Matches .primary view start 0 3 boundary ∧
    Trace.calls ((findBoundary .primary start 0 3).run.transcript answer ()) =
      [.note .probed, .block .primary (.height 0), .block .primary (.height 1),
        .note .probed, .block .primary (.height 1), .block .primary (.height 2)] := by
  intro answer view start boundary
  have seen : ∀ h t, (answer (.block .primary (.height h)) t).1 = view h := fun _ _ => rfl
  obtain ⟨matched, asked⟩ := (findBoundary_first_match seen start 0 ⟨1, 3⟩ ()).1 boundary
  exact ⟨matched.mp rfl, (asked rfl).1⟩

end Surroundings

end HeaderRelay.Epoch
