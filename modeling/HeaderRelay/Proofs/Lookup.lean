import HeaderRelay.Epoch.Advance
import HeaderRelay.Proofs.Trace

set_option autoImplicit false

namespace HeaderRelay

/-- Whether a question only looks at the chain nodes or at saved hashes, or takes a note. -/
def Call.looks : Call → Bool
  | .block _ _ | .head _ | .epochHashes _ | .note _ => true
  | _ => false

/-- Whether a question only looks at the chain nodes or at saved hashes, or notes which node was
chosen or what was looked at. -/
def Call.searches : Call → Bool
  | .block _ _ | .head _ | .epochHashes _ => true
  | .note (.selected _) | .note .probed | .note (.drifted _) => true
  | _ => false

theorem Call.looks_of_searches (call : Call) (searches : call.searches = true) :
    call.looks = true := by
  cases call <;> first | rfl | cases searches

namespace Action

variable {α : Type}

theorem block_runs {node : Endpoint} {id : BlockId} {trace : Trace relaying}
    {outcome : Option (Except Fault Sighting)} (run : (block node id).run.Runs trace outcome) :
    trace = [⟨.block node id, outcome⟩] :=
  Program.runs_query run

theorem epochHashes_runs {height : Nat} {trace : Trace relaying}
    {outcome : Option (Except Fault EpochHashes)}
    (run : (epochHashes height).run.Runs trace outcome) :
    trace = [⟨.epochHashes height, outcome⟩] :=
  Program.runs_query run

theorem fail_runs {fault : Fault} {trace : Trace relaying} {outcome : Option (Except Fault α)}
    (run : (fail fault : Action α).run.Runs trace outcome) :
    trace = [] ∧ outcome = some (.error fault) :=
  Program.runs_done run

theorem pure_runs {x : α} {trace : Trace relaying} {outcome : Option (Except Fault α)}
    (run : (pure x : Action α).run.Runs trace outcome) :
    trace = [] ∧ outcome = some (.ok x) :=
  Program.runs_done run

theorem lift_runs {value : Except Fault α} {trace : Trace relaying}
    {outcome : Option (Except Fault α)} (run : (lift value).run.Runs trace outcome) :
    trace = [] ∧ outcome = some value :=
  Program.runs_done run

theorem lift_bind_runs {β : Type} {value : Except Fault α} {f : α → Action β}
    {trace : Trace relaying} {outcome : Option (Except Fault β)}
    (run : (lift value >>= f).run.Runs trace outcome) :
    (∃ fault, value = .error fault ∧ trace = [] ∧ outcome = some (.error fault)) ∨
      ∃ x, value = .ok x ∧ (f x).run.Runs trace outcome := by
  cases value with
  | ok x => exact .inr ⟨x, rfl, run⟩
  | error fault =>
    obtain ⟨rfl, rfl⟩ := Program.runs_done run
    exact .inl ⟨fault, rfl, rfl, rfl⟩

/-- A note is either answered, or the run ends with it. -/
theorem note_runs {n : Note} {trace : Trace relaying} {outcome : Option (Except Fault Unit)}
    (run : (note n).run.Runs trace outcome) :
    (outcome = none ∧ trace = [⟨.note n, none⟩]) ∨
      (outcome = some (.ok ()) ∧ trace = [⟨.note n, some ()⟩]) := by
  cases run with
  | broken => exact .inl ⟨rfl, rfl⟩
  | answered reply rest =>
    obtain ⟨rfl, rfl⟩ := Program.runs_done rest
    exact .inr ⟨rfl, rfl⟩

theorem not_note_runs_error {n : Note} {trace : Trace relaying} {fault : Fault} :
    ¬ (note n).run.Runs trace (some (.error fault)) := by
  intro run
  rcases note_runs run with ⟨impossible, _⟩ | ⟨impossible, _⟩
  · cases impossible
  · cases impossible

/-- After a note a program goes on, unless it is broken off there. -/
theorem note_bind_runs {β : Type} {n : Note} {f : Unit → Action β} {trace : Trace relaying}
    {outcome : Option (Except Fault β)} (run : (note n >>= f).run.Runs trace outcome) :
    (trace = [⟨.note n, none⟩] ∧ outcome = none) ∨
      ∃ after, trace = ⟨.note n, some ()⟩ :: after ∧ (f ()).run.Runs after outcome := by
  rcases runs_bind run with ⟨_, _, after, rfl, noted, rest⟩ | ⟨fault, rfl, noted⟩ | ⟨rfl, noted⟩
  · rcases note_runs noted with ⟨impossible, _⟩ | ⟨_, rfl⟩
    · cases impossible
    · exact .inr ⟨after, rfl, rest⟩
  · exact absurd noted not_note_runs_error
  · rcases note_runs noted with ⟨_, rfl⟩ | ⟨impossible, _⟩
    · exact .inl ⟨rfl, rfl⟩
    · cases impossible

/-- After a note an action that comes to its end goes on. -/
theorem note_bind_ended {β : Type} {n : Note} {f : Unit → Action β} {trace : Trace relaying}
    {ended : Except Fault β} (run : (note n >>= f).run.Runs trace (some ended)) :
    ∃ after, trace = ⟨.note n, some ()⟩ :: after ∧ (f ()).run.Runs after (some ended) := by
  rcases note_bind_runs run with ⟨-, impossible⟩ | goes
  · cases impossible
  · exact goes

end Action

namespace Node

variable {P : Call → Prop} {node : Endpoint} {id : BlockId} {height : Nat}
  {trace : Trace relaying}

theorem require_asks (asked : P (.block node id)) :
    (require node id).run.Asks (I := relaying) P := by
  refine Action.asks_bind ⟨asked, fun _ => trivial⟩ ?_
  intro sighting
  rcases sighting with block | (_ | _) <;> trivial

theorem produced?_asks (asked : P (.block node (.height height))) :
    (produced? node height).run.Asks (I := relaying) P := by
  refine Action.asks_bind ⟨asked, fun _ => trivial⟩ ?_
  intro sighting
  rcases sighting with block | (_ | _) <;> trivial

def Shown (node : Endpoint) (id : BlockId) (block : Block) (trace : Trace relaying) : Prop :=
  ⟨.block node id, some (.ok (.found block))⟩ ∈ trace

def Unknown (node : Endpoint) (id : BlockId) (trace : Trace relaying) : Prop :=
  ⟨.block node id, some (.ok (.absent .unknown))⟩ ∈ trace

/-- A node failed to answer, or was behind. -/
def Refused (node : Endpoint) (trace : Trace relaying) : Prop :=
  ∃ id, (∃ fault, ⟨.block node id, some (.error fault)⟩ ∈ trace) ∨
    ⟨.block node id, some (.ok (.absent .notSynced))⟩ ∈ trace

theorem Refused.mono {before : Trace relaying} (refused : Refused node before)
    (sub : before ⊆ trace) : Refused node trace := by
  obtain ⟨id, ⟨fault, member⟩ | member⟩ := refused
  · exact ⟨id, .inl ⟨fault, sub member⟩⟩
  · exact ⟨id, .inr (sub member)⟩

theorem require_runs {block : Block}
    (run : (require node id).run.Runs trace (some (.ok block))) :
    trace = [⟨.block node id, some (.ok (.found block))⟩] := by
  obtain ⟨sighting, before, after, rfl, first, second⟩ := Action.runs_bind_ok run
  obtain rfl := Action.block_runs first
  rcases sighting with shown | (_ | _)
  · obtain ⟨rfl, same⟩ := Action.pure_runs second
    cases same
    rfl
  · cases (Action.fail_runs second).2
  · cases (Action.fail_runs second).2

/-- A node was asked for a height, and showed its block or knew none. -/
def seenAt (node : Endpoint) (height : Nat) (found : Option Block) : Event relaying :=
  ⟨.block node (.height height), some (.ok (found.elim (.absent .unknown) .found))⟩

theorem produced?_runs {found : Option Block}
    (run : (produced? node height).run.Runs trace (some (.ok found))) :
    trace = [seenAt node height found] := by
  obtain ⟨sighting, before, after, rfl, first, second⟩ := Action.runs_bind_ok run
  obtain rfl := Action.block_runs first
  rcases sighting with shown | (_ | _)
  · obtain ⟨rfl, same⟩ := Action.pure_runs second
    cases same
    rfl
  · obtain ⟨rfl, same⟩ := Action.pure_runs second
    cases same
    rfl
  · cases (Action.fail_runs second).2

theorem require_runs_error {fault : Fault}
    (run : (require node id).run.Runs trace (some (.error fault))) :
    Unknown node id trace ∨ Refused node trace := by
  rcases Action.runs_bind_error run with ⟨sighting, before, after, rfl, first, second⟩ | first
  · obtain rfl := Action.block_runs first
    rcases sighting with shown | (_ | _)
    · cases (Action.pure_runs second).2
    · exact .inl List.mem_cons_self
    · exact .inr ⟨id, .inr List.mem_cons_self⟩
  · obtain rfl := Action.block_runs first
    exact .inr ⟨id, .inl ⟨fault, List.mem_cons_self⟩⟩

theorem produced?_runs_error {fault : Fault}
    (run : (produced? node height).run.Runs trace (some (.error fault))) :
    Refused node trace := by
  rcases Action.runs_bind_error run with ⟨sighting, before, after, rfl, first, second⟩ | first
  · obtain rfl := Action.block_runs first
    rcases sighting with shown | (_ | _)
    · cases (Action.pure_runs second).2
    · cases (Action.pure_runs second).2
    · exact ⟨_, .inr List.mem_cons_self⟩
  · obtain rfl := Action.block_runs first
    exact ⟨_, .inl ⟨fault, List.mem_cons_self⟩⟩

theorem choose_asks {retention : Retention} (blocks : ∀ node, P (.block node id))
    (head : P (.head .archival)) : (choose retention id).run.Asks (I := relaying) P := by
  refine Action.asks_bind ⟨blocks .primary, fun _ => trivial⟩ ?_
  intro sighting
  rcases sighting with block | (_ | _)
  · exact Action.asks_bind ⟨head, fun _ => trivial⟩ fun _ => trivial
  · refine Action.asks_bind ⟨blocks .archival, fun _ => trivial⟩ ?_
    intro sighting
    rcases sighting with block | (_ | _) <;> trivial
  · trivial

/-- Node selection only searches. -/
theorem resolve_searches (retention : Retention) (hash : Option String) (height : Option Nat) :
    (resolve retention hash height).run.Asks (I := relaying) (·.searches) := by
  refine Action.asks_bind trivial fun id => ?_
  refine Action.asks_bind ?_ ?_
  · exact Program.Asks.bind (choose_asks (fun _ => rfl) rfl) fun _ => trivial
  · intro outcome
    cases outcome with
    | ok node => exact Action.asks_bind ⟨rfl, fun _ => trivial⟩ fun _ => trivial
    | error fault => trivial

theorem resolve_asks (retention : Retention) (hash : Option String) (height : Option Nat) :
    (resolve retention hash height).run.Asks (I := relaying) (·.looks) :=
  (resolve_searches retention hash height).mono Call.looks_of_searches

end Node

namespace Epoch

theorem findFrom_searches (node : Endpoint) (start : Block) (expected count drift : Nat) :
    (findFrom node start expected count drift).run.Asks (I := relaying) (·.searches) := by
  induction count generalizing drift with
  | zero => trivial
  | succ count ih =>
    refine Action.asks_bind ⟨rfl, fun _ => trivial⟩ fun _ => ?_
    refine Action.asks_bind (Node.produced?_asks rfl) fun last => ?_
    refine Action.asks_bind (Node.produced?_asks rfl) fun first => ?_
    rcases last with _ | last <;> rcases first with _ | first
    · exact ih (drift + 1)
    · exact ih (drift + 1)
    · exact ih (drift + 1)
    · dsimp only
      split
      · trivial
      · exact ih (drift + 1)

/-- The search for a boundary only searches. -/
theorem scan_searches (search : Search) (node : Endpoint) (height : Nat) :
    (scan search node height).run.Asks (I := relaying) (·.searches) := by
  refine Action.asks_bind ⟨rfl, fun _ => trivial⟩ fun saved => ?_
  refine Action.asks_bind (Node.require_asks rfl) fun start => ?_
  refine Action.asks_bind ?_ fun boundary => ?_
  · refine Action.asks_bind (findFrom_searches _ _ _ _ _) fun boundary => ?_
    cases boundary <;> trivial
  · refine Action.asks_bind (Node.require_asks rfl) fun previous => ?_
    exact Action.asks_bind ⟨rfl, fun _ => trivial⟩ fun _ => trivial

theorem scan_asks (search : Search) (node : Endpoint) (height : Nat) :
    (scan search node height).run.Asks (I := relaying) (·.looks) :=
  (scan_searches search node height).mono Call.looks_of_searches

end Epoch

end HeaderRelay
