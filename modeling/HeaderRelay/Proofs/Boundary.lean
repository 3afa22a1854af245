import HeaderRelay.Proofs.Lineage
import HeaderRelay.Proofs.Lookup

set_option autoImplicit false

namespace HeaderRelay.Epoch

open Node (Shown Unknown Refused)

variable {node : Endpoint} {start : Block} {expected count drift height : Nat}
  {trace : Trace relaying} {search : Search}

/-- A boundary of the epoch of `start` that a node showed. -/
structure Found (node : Endpoint) (start : Block) (expected : Nat) (boundary : Boundary)
    (trace : Trace relaying) : Prop where
  links : isBoundary start boundary.last boundary.first = true
  last : Shown node (.height (expected + boundary.drift)) boundary.last trace
  first : Shown node (.height (expected + boundary.drift + 1)) boundary.first trace

/-- A pair of heights was looked at in vain: one has no block as far as the node knows, or the
blocks are no boundary of the epoch of `start`. -/
def Missed (node : Endpoint) (start : Block) (expected drift : Nat) (trace : Trace relaying) :
    Prop :=
  Unknown node (.height (expected + drift)) trace ∨
    Unknown node (.height (expected + drift + 1)) trace ∨
    ∃ last first, Shown node (.height (expected + drift)) last trace ∧
      Shown node (.height (expected + drift + 1)) first trace ∧
      isBoundary start last first = false

theorem Found.mono {boundary : Boundary} {before : Trace relaying}
    (found : Found node start expected boundary before) (sub : before ⊆ trace) :
    Found node start expected boundary trace :=
  ⟨found.links, sub found.last, sub found.first⟩

theorem Missed.mono {before : Trace relaying} (missed : Missed node start expected drift before)
    (sub : before ⊆ trace) : Missed node start expected drift trace := by
  rcases missed with unknown | unknown | ⟨last, first, shown, shown', links⟩
  · exact .inl (sub unknown)
  · exact .inr (.inl (sub unknown))
  · exact .inr (.inr ⟨last, first, sub shown, sub shown', links⟩)

/-- A boundary that a node of the chain showed is where an epoch ends and the next begins, at
neighbouring heights; the epoch has the epoch id of the one of `start`. -/
theorem Found.turns {c : Lineage} {k : Nat} {boundary : Boundary}
    (found : Found node start expected boundary trace)
    (shows : ∀ id b, Shown node id b trace → c.Shows id b) (inEpoch : start ∈ c.epoch k) :
    ∃ i, i - 1 = k - 1 ∧ c.last? i = some boundary.last ∧
      c.first? (i + 1) = some boundary.first ∧
      boundary.last.height = expected + boundary.drift ∧
      boundary.first.height = expected + boundary.drift + 1 := by
  obtain ⟨⟨i, memberLast⟩, heightLast⟩ := shows _ _ found.last
  obtain ⟨⟨j, memberFirst⟩, heightFirst⟩ := shows _ _ found.first
  have neighbours : boundary.first.height = boundary.last.height + 1 := by
    rw [heightFirst, heightLast]
  obtain ⟨sameEpoch, atEnd, atStart⟩ :=
    (Lineage.isBoundary_iff inEpoch memberLast memberFirst neighbours).mp found.links
  exact ⟨i, sameEpoch, atEnd, atStart, heightLast, heightFirst⟩

theorem missed_of_seenAt {last first : Option Block}
    (links : ∀ l f, last = some l → first = some f → isBoundary start l f = false) :
    Missed node start expected drift
      [Node.seenAt node (expected + drift) last, Node.seenAt node (expected + drift + 1) first] := by
  rcases last with _ | last
  · exact .inl List.mem_cons_self
  rcases first with _ | first
  · exact .inr (.inl (List.mem_cons_of_mem _ List.mem_cons_self))
  · exact .inr (.inr ⟨last, first, List.mem_cons_self,
      List.mem_cons_of_mem _ List.mem_cons_self, links last first rfl rfl⟩)

theorem probe_runs {found : Option Boundary}
    (run : (findFrom node start expected (count + 1) drift).run.Runs trace (some (.ok found))) :
    (∃ boundary, found = some boundary ∧ boundary.drift = drift ∧
      Found node start expected boundary trace) ∨
    ∃ before after, trace = before ++ after ∧ Missed node start expected drift before ∧
      (findFrom node start expected count (drift + 1)).run.Runs after (some (.ok found)) := by
  rcases Action.note_bind_runs run with ⟨_, impossible⟩ | ⟨_, rfl, pair⟩
  · cases impossible
  obtain ⟨last, _, _, rfl, askedLast, single⟩ := Action.runs_bind_ok pair
  obtain ⟨first, _, t, rfl, askedFirst, rest⟩ := Action.runs_bind_ok single
  obtain rfl := Node.produced?_runs askedLast
  obtain rfl := Node.produced?_runs askedFirst
  -- The probe is in vain in four ways, and the search goes on alike after each.
  have next (links : ∀ l f, last = some l → first = some f → isBoundary start l f = false)
      (rest : (findFrom node start expected count (drift + 1)).run.Runs t (some (.ok found))) :
      ∃ before after, ⟨.note .probed, some ()⟩ :: ([Node.seenAt node (expected + drift) last] ++
        ([Node.seenAt node (expected + drift + 1) first] ++ t)) = before ++ after ∧
        Missed node start expected drift before ∧
        (findFrom node start expected count (drift + 1)).run.Runs after (some (.ok found)) := by
    have missed : Missed node start expected drift [Node.seenAt node (expected + drift) last,
        Node.seenAt node (expected + drift + 1) first] := missed_of_seenAt links
    exact ⟨_ :: [_, _], t, rfl, missed.mono (List.subset_cons_self _ _), rest⟩
  rcases last with _ | last <;> rcases first with _ | first
  · exact .inr (next (fun _ _ none => nomatch none) rest)
  · exact .inr (next (fun _ _ none => nomatch none) rest)
  · exact .inr (next (fun _ _ _ none => nomatch none) rest)
  · dsimp only at rest
    split at rest
    · rename_i links
      obtain ⟨rfl, same⟩ := Action.pure_runs rest
      cases same
      refine .inl ⟨_, rfl, rfl, links, ?_, ?_⟩
      · exact List.mem_cons_of_mem _ List.mem_cons_self
      · exact List.mem_cons_of_mem _ (List.mem_cons_of_mem _ List.mem_cons_self)
    · rename_i links
      refine .inr (next ?_ rest)
      rintro l f ⟨⟩ ⟨⟩
      simpa only [Bool.not_eq_true] using links

/-- A search that finds a boundary was shown it, within the heights it was to look at. -/
theorem findFrom_runs_some {boundary : Boundary}
    (run : (findFrom node start expected count drift).run.Runs trace
      (some (.ok (some boundary)))) :
    drift ≤ boundary.drift ∧ boundary.drift < drift + count ∧
      Found node start expected boundary trace := by
  induction count generalizing drift trace with
  | zero => cases (Action.pure_runs run).2
  | succ count ih =>
    rcases probe_runs run with ⟨_, same, atDrift, found⟩ | ⟨before, after, rfl, _, rest⟩
    · cases same
      exact ⟨by omega, by omega, found⟩
    · obtain ⟨lower, upper, found⟩ := ih rest
      exact ⟨by omega, by omega, found.mono (List.subset_append_right before after)⟩

/-- A search missed at every height before the boundary that it found, and at every height that it
was to look at if it found none. -/
theorem findFrom_runs_missed {found : Option Boundary}
    (run : (findFrom node start expected count drift).run.Runs trace (some (.ok found))) :
    ∀ d, drift ≤ d → d < found.elim (drift + count) Boundary.drift →
      Missed node start expected d trace := by
  induction count generalizing drift trace with
  | zero =>
    obtain ⟨-, same⟩ := Action.pure_runs run
    cases same
    intro d lower upper
    exact absurd upper (Nat.not_lt_of_le lower)
  | succ count ih =>
    intro d lower upper
    rcases probe_runs run with ⟨boundary, rfl, rfl, _⟩ | ⟨before, after, rfl, missed, rest⟩
    · exact absurd upper (Nat.not_lt_of_le lower)
    · by_cases atDrift : d = drift
      · subst atDrift
        exact missed.mono (List.subset_append_left before after)
      · rw [← Nat.succ_add_eq_add_succ] at upper
        have missed := ih rest d (by omega) upper
        exact missed.mono (List.subset_append_right before after)

/-- A search fails only where a node refuses an answer. -/
theorem findFrom_runs_error {fault : Fault}
    (run : (findFrom node start expected count drift).run.Runs trace (some (.error fault))) :
    Refused node trace := by
  induction count generalizing drift trace with
  | zero => cases (Action.pure_runs run).2
  | succ count ih =>
    rcases Action.note_bind_runs run with ⟨_, impossible⟩ | ⟨_, rfl, pair⟩
    · cases impossible
    apply Refused.mono ?_ (List.subset_cons_self _ _)
    rcases Action.runs_bind_error pair with ⟨last, _, _, rfl, _, single⟩ | asked
    · apply Refused.mono ?_ (List.subset_append_right _ _)
      rcases Action.runs_bind_error single with ⟨first, _, _, rfl, _, rest⟩ | asked
      · apply Refused.mono ?_ (List.subset_append_right _ _)
        rcases last with _ | last <;> rcases first with _ | first
        · exact ih rest
        · exact ih rest
        · exact ih rest
        · dsimp only at rest
          split at rest
          · cases (Action.pure_runs rest).2
          · exact ih rest
      · exact Node.produced?_runs_error asked
    · exact Node.produced?_runs_error asked

def noBoundary (search : Search) (expected : Nat) : Fault :=
  ⟨.blockNotProduced, "No epoch boundary within " ++ toString search.maxDrift ++
    " blocks of height " ++ toString expected⟩

theorem findBoundary_runs {boundary : Boundary}
    (run : (findBoundary node start expected search.maxDrift).run.Runs trace
      (some (.ok boundary))) :
    boundary.drift < search.maxDrift ∧ Found node start expected boundary trace ∧
      ∀ d < boundary.drift, Missed node start expected d trace := by
  obtain ⟨found, _, _, rfl, searched, run₁⟩ := Action.runs_bind_ok run
  cases found with
  | none => cases (Action.fail_runs run₁).2
  | some other =>
    obtain ⟨rfl, same⟩ := Action.pure_runs run₁
    cases same
    obtain ⟨-, upper, found⟩ := findFrom_runs_some searched
    refine ⟨by omega, found.mono (List.subset_append_left _ _), fun d before => ?_⟩
    have missed := findFrom_runs_missed searched d (Nat.zero_le d) before
    exact missed.mono (List.subset_append_left _ _)

theorem findBoundary_runs_error {fault : Fault}
    (run : (findBoundary node start expected search.maxDrift).run.Runs trace
      (some (.error fault))) :
    Refused node trace ∨ (fault = noBoundary search expected ∧
      ∀ d < search.maxDrift, Missed node start expected d trace) := by
  rcases Action.runs_bind_error run with ⟨found, _, _, rfl, searched, run₁⟩ | searched
  · cases found with
    | some boundary => cases (Action.pure_runs run₁).2
    | none =>
      obtain ⟨rfl, same⟩ := Action.fail_runs run₁
      cases same
      refine .inr ⟨rfl, fun d within => ?_⟩
      have missed := findFrom_runs_missed searched d (Nat.zero_le d)
        (within.trans_le (Nat.le_add_left ..))
      exact missed.mono (List.subset_append_left _ _)
  · exact .inl (findFrom_runs_error searched)

/-- A scan that ends well read the saved hashes, was shown the two blocks they name and a
boundary after them, the first in its window, and links just these. -/
theorem scan_runs_ok {link : EpochLink}
    (run : (scan search node height).run.Runs trace (some (.ok link))) :
    ∃ saved start boundary previous,
      ⟨.epochHashes height, some (.ok saved)⟩ ∈ trace ∧
      Shown node (.hash saved.current) start trace ∧
      Shown node (.hash saved.previous) previous trace ∧
      boundary.drift < search.maxDrift ∧
      Found node start (height + search.epochLength - 1) boundary trace ∧
      (∀ d < boundary.drift, Missed node start (height + search.epochLength - 1) d trace) ∧
      link = ⟨boundary.first.hash, saved.current, boundary.last.hash, saved.previous,
        previous.nextEpochId, boundary.first.height⟩ := by
  obtain ⟨saved, _, _, rfl, read, run₁⟩ := Action.runs_bind_ok run
  obtain rfl := Action.epochHashes_runs read
  obtain ⟨start, _, _, rfl, asked, run₂⟩ := Action.runs_bind_ok run₁
  obtain rfl := Node.require_runs asked
  obtain ⟨boundary, probes, _, rfl, searched, run₃⟩ := Action.runs_bind_ok run₂
  obtain ⟨previous, _, _, rfl, asked', run₄⟩ := Action.runs_bind_ok run₃
  obtain rfl := Node.require_runs asked'
  obtain ⟨_, _, _, rfl, _, run₅⟩ := Action.runs_bind_ok run₄
  obtain ⟨rfl, same⟩ := Action.pure_runs run₅
  obtain ⟨within, found, missed⟩ := findBoundary_runs searched
  have probed (x y z : Trace relaying) : probes ⊆ x ++ (y ++ (probes ++ z)) := by
    apply List.subset_append_of_subset_right
    apply List.subset_append_of_subset_right
    exact List.subset_append_left probes z
  refine ⟨saved, start, boundary, previous, List.mem_cons_self, ?_, ?_, within,
    found.mono (probed ..), fun d before => (missed d before).mono (probed ..), ?_⟩
  · exact List.mem_append_right _ List.mem_cons_self
  · exact List.mem_append_right _ (List.mem_append_right _
      (List.mem_append_right _ List.mem_cons_self))
  · cases same
    rfl

/-- A scan that ends in a fault could not read the saved hashes, was refused an answer, did not
find a block that they name, or missed the boundary at every height it was to look at. -/
theorem scan_runs_error {fault : Fault}
    (run : (scan search node height).run.Runs trace (some (.error fault))) :
    (∃ other, ⟨.epochHashes height, some (.error other)⟩ ∈ trace) ∨ Refused node trace ∨
    (∃ saved, ⟨.epochHashes height, some (.ok saved)⟩ ∈ trace ∧
      (Unknown node (.hash saved.current) trace ∨ Unknown node (.hash saved.previous) trace)) ∨
    (fault = noBoundary search (height + search.epochLength - 1) ∧ ∃ saved start,
      ⟨.epochHashes height, some (.ok saved)⟩ ∈ trace ∧
      Shown node (.hash saved.current) start trace ∧
      ∀ d < search.maxDrift,
        Missed node start (height + search.epochLength - 1) d trace) := by
  rcases Action.runs_bind_error run with ⟨saved, _, _, rfl, read, run₁⟩ | read
  · obtain rfl := Action.epochHashes_runs read
    rcases Action.runs_bind_error run₁ with ⟨start, _, _, rfl, asked, run₂⟩ | asked
    · obtain rfl := Node.require_runs asked
      rcases Action.runs_bind_error run₂ with ⟨boundary, probes, _, rfl, _, run₃⟩ | searched
      · rcases Action.runs_bind_error run₃ with ⟨previous, _, _, rfl, _, run₄⟩ | asked'
        · rcases Action.runs_bind_error run₄ with ⟨_, _, _, _, _, run₅⟩ | noted
          · cases (Action.pure_runs run₅).2
          · exact absurd noted Action.not_note_runs_error
        · rcases Node.require_runs_error asked' with unknown | refused
          · exact .inr (.inr (.inl ⟨saved, List.mem_cons_self, .inr (List.mem_append_right _
              (List.mem_append_right _ (List.mem_append_right _ unknown)))⟩))
          · refine .inr (.inl (refused.mono ?_))
            apply List.subset_append_of_subset_right
            apply List.subset_append_of_subset_right
            exact List.subset_append_right probes _
      · rcases findBoundary_runs_error searched with refused | ⟨rfl, missed⟩
        · refine .inr (.inl (refused.mono ?_))
          apply List.subset_append_of_subset_right
          exact List.subset_append_right _ _
        · refine .inr (.inr (.inr ⟨rfl, saved, start, List.mem_cons_self,
            List.mem_append_right _ List.mem_cons_self, fun d within => ?_⟩))
          apply (missed d within).mono
          apply List.subset_append_of_subset_right
          exact List.subset_append_right _ _
    · rcases Node.require_runs_error asked with unknown | refused
      · exact .inr (.inr (.inl ⟨saved, List.mem_cons_self,
          .inl (List.mem_append_right _ unknown)⟩))
      · exact .inr (.inl (refused.mono (List.subset_append_right _ _)))
  · obtain rfl := Action.epochHashes_runs read
    exact .inl ⟨fault, List.mem_cons_self⟩

end HeaderRelay.Epoch
