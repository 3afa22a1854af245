import HeaderRelay.Relay.Action

/-
Runs of programs: the questions that were asked, each with its answer. A run may be broken off at
any question, so that a statement about all runs of a program also covers one that is cancelled
while it waits.
-/

set_option autoImplicit false

namespace HeaderRelay

/-- A question that was asked, with its answer if it got one. -/
structure Event (I : Interface) where
  call : I.Call
  reply : Option (I.Reply call)

/-- Questions in the order in which they were asked. -/
abbrev Trace (I : Interface) := List (Event I)

/-- A row of questions got the answers that surroundings give, one after the other. -/
def Trace.AnsweredBy {I : Interface} {σ : Type} (answer : (call : I.Call) → σ → I.Reply call × σ) :
    Trace I → σ → Prop
  | [], _ => True
  | event :: trace, s =>
      event.reply = some (answer event.call s).1 ∧
        Trace.AnsweredBy answer trace (answer event.call s).2

theorem Trace.AnsweredBy.of_append {I : Interface} {σ : Type}
    {answer : (call : I.Call) → σ → I.Reply call × σ} {before after : Trace I} {s : σ}
    (answered : (before ++ after).AnsweredBy answer s) : before.AnsweredBy answer s := by
  induction before generalizing s with
  | nil => trivial
  | cons event before ih => exact ⟨answered.1, ih answered.2⟩

theorem Trace.AnsweredBy.exists_reply {I : Interface} {σ : Type}
    {answer : (call : I.Call) → σ → I.Reply call × σ} {trace : Trace I} {s : σ}
    (answered : trace.AnsweredBy answer s) :
    ∀ event ∈ trace, ∃ t, event.reply = some (answer event.call t).1 := by
  induction trace generalizing s with
  | nil => simp
  | cons event trace ih =>
    exact List.forall_mem_cons.mpr ⟨⟨s, answered.1⟩, ih answered.2⟩

/-- What holds of any answer that surroundings give to a question holds of those that a row of
questions got. -/
theorem Trace.reply_of_forall {I : Interface} {σ : Type}
    {answer : (call : I.Call) → σ → I.Reply call × σ} {trace : Trace I} {call : I.Call}
    {P : I.Reply call → Prop} {reply : I.Reply call}
    (answers : ∀ event ∈ trace, ∃ t, event.reply = some (answer event.call t).1)
    (always : ∀ t, P (answer call t).1) (member : ⟨call, some reply⟩ ∈ trace) : P reply := by
  obtain ⟨t, answered⟩ := answers _ member
  rw [Option.some.inj answered]
  exact always t

namespace Program

variable {I : Interface} {α β σ : Type}

/-- The runs of a program, whatever its surroundings answer. One that is broken off ends in a
question without an answer, and has no outcome. -/
inductive Runs : Program I α → Trace I → Option α → Prop
  | done (a : α) : Runs (.done a) [] (some a)
  | broken (call : I.Call) (next : I.Reply call → Program I α) :
      Runs (.ask call next) [⟨call, none⟩] none
  | answered {call : I.Call} {next : I.Reply call → Program I α} {trace : Trace I}
      {outcome : Option α} (reply : I.Reply call) (rest : Runs (next reply) trace outcome) :
      Runs (.ask call next) (⟨call, some reply⟩ :: trace) outcome

theorem runs_done {a : α} {trace : Trace I} {outcome : Option α}
    (run : (Program.done a : Program I α).Runs trace outcome) :
    trace = [] ∧ outcome = some a := by
  cases run
  exact ⟨rfl, rfl⟩

theorem runs_query {call : I.Call} {trace : Trace I} {outcome : Option (I.Reply call)}
    (run : (query call).Runs trace outcome) : trace = [⟨call, outcome⟩] := by
  cases run with
  | broken => rfl
  | answered reply rest =>
    obtain ⟨rfl, rfl⟩ := runs_done rest
    rfl

/-- A run of two programs in a row runs through the first and then the second, unless it is
broken off before. -/
theorem runs_bind {p : Program I α} {f : α → Program I β} {trace : Trace I} {outcome : Option β}
    (run : (p.bind f).Runs trace outcome) :
    (∃ a before after, trace = before ++ after ∧ p.Runs before (some a) ∧
      (f a).Runs after outcome) ∨ (outcome = none ∧ p.Runs trace none) := by
  induction p generalizing trace with
  | done a => exact .inl ⟨a, [], trace, rfl, .done a, run⟩
  | ask call next ih =>
    cases run with
    | broken => exact .inr ⟨rfl, .broken call next⟩
    | answered reply rest =>
      rcases ih reply rest with ⟨a, before, after, rfl, first, second⟩ | ⟨rfl, first⟩
      · exact .inl ⟨a, _ :: before, after, rfl, .answered reply first, second⟩
      · exact .inr ⟨rfl, .answered reply first⟩

/-- Two programs in a row that come to their end have run through both. -/
theorem runs_bind_ended {p : Program I α} {f : α → Program I β} {trace : Trace I} {b : β}
    (run : (p.bind f).Runs trace (some b)) :
    ∃ a before after, trace = before ++ after ∧ p.Runs before (some a) ∧
      (f a).Runs after (some b) := by
  rcases runs_bind run with both | ⟨impossible, -⟩
  · exact both
  · cases impossible

/-- A program that comes to its end goes on with what follows it. -/
theorem Runs.bind {p : Program I α} {f : α → Program I β} {before after : Trace I} {a : α}
    {outcome : Option β} (first : p.Runs before (some a)) (second : (f a).Runs after outcome) :
    (p.bind f).Runs (before ++ after) outcome := by
  generalize ended : some a = middle at first
  induction first with
  | done b =>
    cases ended
    exact second
  | broken call next => cases ended
  | answered reply rest ih => exact .answered reply (ih ended)

/-- Every question that a program may ask satisfies a predicate. -/
def Asks (P : I.Call → Prop) : Program I α → Prop
  | .done _ => True
  | .ask call next => P call ∧ ∀ reply, (next reply).Asks P

/-- A run that is broken off does not come to what is done after it. -/
theorem Runs.bind_broken {p : Program I α} {f : α → Program I β} {trace : Trace I}
    (run : p.Runs trace none) : (p.bind f).Runs trace none := by
  generalize broken : (none : Option α) = outcome at run
  induction run with
  | done a => cases broken
  | broken call next => exact .broken call _
  | answered reply rest ih => exact .answered reply (ih broken)

theorem Asks.bind {P : I.Call → Prop} {p : Program I α} {f : α → Program I β} (first : p.Asks P)
    (second : ∀ a, (f a).Asks P) : (p.bind f).Asks P := by
  induction p with
  | done a => exact second a
  | ask call next ih => exact ⟨first.1, fun reply => ih reply (first.2 reply)⟩

theorem Asks.mono {P Q : I.Call → Prop} {p : Program I α} (asks : p.Asks P)
    (imp : ∀ call, P call → Q call) : p.Asks Q := by
  induction p with
  | done a => trivial
  | ask call next ih => exact ⟨imp call asks.1, fun reply => ih reply (asks.2 reply)⟩

theorem Asks.mem {P : I.Call → Prop} {p : Program I α} {trace : Trace I} {outcome : Option α}
    (asks : p.Asks P) (run : p.Runs trace outcome) : ∀ event ∈ trace, P event.call := by
  induction run with
  | done a => simp
  | broken call next => simpa using asks.1
  | answered reply rest ih =>
    intro event member
    rcases List.mem_cons.mp member with rfl | member
    · exact asks.1
    · exact ih (asks.2 reply) event member

/-- A run that is broken off ends in a question without an answer. -/
theorem Runs.unanswered {p : Program I α} {trace : Trace I} (run : p.Runs trace none) :
    ∃ event ∈ trace, event.reply = none := by
  generalize ended : none = outcome at run
  induction run with
  | done a => cases ended
  | broken call next => exact ⟨_, List.mem_cons_self, rfl⟩
  | answered reply rest ih =>
    obtain ⟨event, member, unanswered⟩ := ih ended
    exact ⟨event, List.mem_cons_of_mem _ member, unanswered⟩

/-- What a program asks of surroundings that always answer, and what it is answered. -/
def transcript (answer : (call : I.Call) → σ → I.Reply call × σ) : Program I α → σ → Trace I
  | .done _, _ => []
  | .ask call next, s =>
      ⟨call, some (answer call s).1⟩ :: (next (answer call s).1).transcript answer (answer call s).2

/-- Surroundings that always answer bring about a run to the end. -/
theorem runs_transcript (answer : (call : I.Call) → σ → I.Reply call × σ) (p : Program I α)
    (s : σ) : p.Runs (p.transcript answer s) (some (p.run answer s).1) := by
  induction p generalizing s with
  | done a => exact .done a
  | ask call next ih => exact .answered _ (ih (answer call s).1 (answer call s).2)

theorem answeredBy_transcript (answer : (call : I.Call) → σ → I.Reply call × σ)
    (p : Program I α) (s : σ) : (p.transcript answer s).AnsweredBy answer s := by
  induction p generalizing s with
  | done a => trivial
  | ask call next ih => exact ⟨rfl, ih (answer call s).1 (answer call s).2⟩

/-- The run that surroundings bring about is the only one with the answers that they give. -/
theorem Runs.run_eq {answer : (call : I.Call) → σ → I.Reply call × σ} {p : Program I α}
    {trace : Trace I} {a : α} {s : σ} (run : p.Runs trace (some a))
    (answered : trace.AnsweredBy answer s) : (p.run answer s).1 = a := by
  generalize ended : some a = outcome at run
  induction run generalizing s with
  | done b =>
    cases ended
    rfl
  | broken call next => cases ended
  | @answered call next trace outcome reply rest ih =>
    have told : reply = (answer call s).1 := Option.some.inj answered.1
    subst told
    exact ih answered.2 ended

theorem exists_runs_run (answer : (call : I.Call) → σ → I.Reply call × σ) (p : Program I α)
    (s : σ) : ∃ trace, p.Runs trace (some (p.run answer s).1) ∧
      ∀ event ∈ trace, ∃ t, event.reply = some (answer event.call t).1 :=
  ⟨_, runs_transcript answer p s, (answeredBy_transcript answer p s).exists_reply⟩

/-- The outcome of the run with a trace, if a program has one. -/
def replay? [DecidableEq I.Call] : Program I α → Trace I → Option (Option α)
  | .done a, [] => some (some a)
  | .done _, _ :: _ => none
  | .ask _ _, [] => none
  | .ask call next, event :: trace =>
      if same : event.call = call then
        match event.reply, trace with
        | some reply, trace => (next (same ▸ reply)).replay? trace
        | none, [] => some none
        | none, _ :: _ => none
      else none

theorem runs_of_replay? [DecidableEq I.Call] {p : Program I α} {trace : Trace I}
    {outcome : Option α} (found : p.replay? trace = some outcome) : p.Runs trace outcome := by
  induction p generalizing trace with
  | done a =>
    cases trace with
    | nil => cases found; exact .done a
    | cons event trace => cases found
  | ask call next ih =>
    cases trace with
    | nil => cases found
    | cons event trace =>
      obtain ⟨asked, reply⟩ := event
      simp only [replay?] at found
      split at found
      · rename_i same
        subst same
        cases reply with
        | some reply => exact .answered reply (ih reply found)
        | none =>
          cases trace with
          | nil => cases found; exact .broken asked next
          | cons event trace => cases found
      · cases found

end Program

/-- A question as one that may be told to stop: it was where it got no answer. -/
def Event.cancellable {I : Interface} (event : Event I) : Event I.cancellable :=
  ⟨event.call, some event.reply⟩

theorem Event.cancellable_inj {I : Interface} (first second : Event I)
    (same : first.cancellable = second.cancellable) : first = second := by
  obtain ⟨call, reply⟩ := first
  obtain ⟨call', reply'⟩ := second
  cases same
  rfl

namespace Program

variable {I : Interface} {α : Type} {trace : Trace I} {outcome : Option α}

/-- A program that may be told to stop comes to its end where the program does, and where that is
broken off. -/
theorem cancellable_runs {p : Program I α} {told : Trace I.cancellable}
    (run : p.cancellable.Runs told (some outcome)) :
    ∃ trace : Trace I, told = trace.map Event.cancellable ∧ p.Runs trace outcome := by
  induction p generalizing told with
  | done a =>
    obtain ⟨rfl, ⟨⟩⟩ := runs_done run
    exact ⟨[], rfl, .done a⟩
  | ask call next ih =>
    rw [Program.cancellable] at run
    cases run with
    | answered reply rest =>
      cases reply with
      | none =>
        obtain ⟨rfl, ⟨⟩⟩ := runs_done rest
        exact ⟨[⟨call, none⟩], rfl, .broken call next⟩
      | some reply =>
        obtain ⟨trace, rfl, run⟩ := ih reply rest
        exact ⟨⟨call, some reply⟩ :: trace, rfl, .answered reply run⟩

theorem Runs.cancellable {p : Program I α} (run : p.Runs trace outcome) :
    p.cancellable.Runs (trace.map Event.cancellable) (some outcome) := by
  induction run with
  | done a => exact .done (some a)
  | broken call next =>
    rw [Program.cancellable]
    exact @Runs.answered I.cancellable _ call _ [] _ none (.done none)
  | @answered call next trace outcome reply rest ih =>
    rw [Program.cancellable]
    exact @Runs.answered I.cancellable _ call _ _ _ (some reply) ih

end Program

/-- A question of one interface as a question of two. -/
def Event.right {I J : Interface} (event : Event I) : Event (J.both I) :=
  ⟨.inr event.call, event.reply⟩

namespace Program

variable {I J : Interface} {α : Type} {outcome : Option α}

/-- A program among the questions of two interfaces asks those of its own. -/
theorem right_runs {p : Program I α} {both : Trace (J.both I)}
    (run : (p.right : Program (J.both I) α).Runs both outcome) :
    ∃ trace : Trace I, both = trace.map Event.right ∧ p.Runs trace outcome := by
  induction p generalizing both with
  | done a =>
    obtain ⟨rfl, rfl⟩ := runs_done run
    exact ⟨[], rfl, .done a⟩
  | ask call next ih =>
    rw [Program.right] at run
    cases run with
    | broken => exact ⟨[⟨call, none⟩], rfl, .broken call next⟩
    | answered reply rest =>
      obtain ⟨trace, rfl, run⟩ := ih reply rest
      exact ⟨⟨call, some reply⟩ :: trace, rfl, @Runs.answered I _ call next _ _ reply run⟩

theorem Runs.right {p : Program I α} {trace : Trace I} (run : p.Runs trace outcome) :
    (p.right : Program (J.both I) α).Runs (trace.map Event.right) outcome := by
  induction run with
  | done a => exact .done a
  | broken call next => exact @Runs.broken (J.both I) _ (.inr call) _
  | @answered call next trace outcome reply rest ih =>
    exact @Runs.answered (J.both I) _ (.inr call) _ _ _ reply ih

end Program

section Answers

variable {I : Interface} {α : Type} {event event' : Event I}
  {before before' after after' : Trace I} {outcome outcome' : Option α}

/-- A question that stands at the same place in two rows got the same answer in both. -/
def Trace.Unchanged (first second : Trace I) : Prop :=
  ∀ (i : Nat) (event event' : Event I), first[i]? = some event → second[i]? = some event' →
    event.call = event'.call → event = event'

theorem Trace.Unchanged.head
    (unchanged : Trace.Unchanged (event :: before) (event' :: before'))
    (same : event.call = event'.call) : event = event' :=
  unchanged 0 event event' rfl rfl same

theorem Trace.Unchanged.tail
    (unchanged : Trace.Unchanged (event :: before) (event' :: before')) :
    Trace.Unchanged before before' :=
  fun i x y first second => unchanged (i + 1) x y first second

/-- A program that asks a question goes on with the answer, if it gets one. -/
theorem Program.runs_ask {call : I.Call} {next : I.Reply call → Program I α}
    (run : (Program.ask call next).Runs (event :: after) outcome) :
    ∃ reply, event = ⟨call, reply⟩ ∧
      (after = [] ∨ ∃ answer, reply = some answer ∧ (next answer).Runs after outcome) := by
  cases run with
  | broken => exact ⟨none, rfl, .inl rfl⟩
  | answered answer rest => exact ⟨some answer, rfl, .inr ⟨answer, rfl, rest⟩⟩

/-- After the same questions and answers, the same question gets the same answer: so it is with all
surroundings that go only by what happened before. -/
def Trace.Alike (first second : Trace I) : Prop :=
  ∀ common event event' rest rest', first = common ++ event :: rest →
    second = common ++ event' :: rest' → event.call = event'.call → event = event'

theorem Trace.Alike.head (alike : Trace.Alike (event :: before) (event' :: before'))
    (same : event.call = event'.call) : event = event' :=
  alike [] event event' before before' rfl rfl same

theorem Trace.Alike.tail (alike : Trace.Alike (event :: before) (event :: before')) :
    Trace.Alike before before' := by
  rintro common first second rest rest' rfl rfl same
  exact alike (event :: common) first second rest rest' rfl rfl same

/-- Two runs of a program to its end in such surroundings are the same. -/
theorem Program.runs_unique {p : Program I α} {a a' : α} (run : p.Runs before (some a))
    (run' : p.Runs before' (some a')) (alike : Trace.Alike before before') :
    before = before' ∧ a = a' := by
  induction p generalizing before before' with
  | done b =>
    obtain ⟨rfl, ⟨⟩⟩ := runs_done run
    obtain ⟨rfl, ⟨⟩⟩ := runs_done run'
    exact ⟨rfl, rfl⟩
  | ask call next ih =>
    cases run with
    | answered reply rest =>
      cases run' with
      | answered reply' rest' =>
        cases alike.head rfl
        obtain ⟨rfl, rfl⟩ := ih reply rest rest' alike.tail
        exact ⟨rfl, rfl⟩

/-- Two runs of a program that hear the same answers come to the same first question of a kind. -/
theorem Program.runs_agree (kind : I.Call → Bool) {p : Program I α}
    (run : p.Runs (before ++ event :: after) outcome)
    (run' : p.Runs (before' ++ event' :: after') outcome')
    (others : ∀ e ∈ before, kind e.call = false) (others' : ∀ e ∈ before', kind e.call = false)
    (found : kind event.call = true) (found' : kind event'.call = true)
    (unchanged : Trace.Unchanged before before') :
    before = before' ∧ event.call = event'.call := by
  induction p generalizing before before' with
  | done a => cases (List.append_eq_nil_iff.mp (runs_done run).1).2
  | ask call next ih =>
    -- The question is the first of its kind in both runs, or in neither.
    cases before with
    | nil =>
      obtain ⟨_, rfl, -⟩ := runs_ask run
      cases before' with
      | nil =>
        obtain ⟨_, rfl, -⟩ := runs_ask run'
        exact ⟨rfl, rfl⟩
      | cons e' before' =>
        obtain ⟨_, rfl, -⟩ := runs_ask run'
        have other := others' _ List.mem_cons_self
        cases found.symm.trans other
    | cons e before =>
      obtain ⟨reply, rfl, heard⟩ := runs_ask run
      cases before' with
      | nil =>
        obtain ⟨_, rfl, -⟩ := runs_ask run'
        have other := others _ List.mem_cons_self
        cases found'.symm.trans other
      | cons e' before' =>
        obtain ⟨reply', rfl, heard'⟩ := runs_ask run'
        cases unchanged.head rfl
        rcases heard with impossible | ⟨answer, rfl, rest⟩
        · cases (List.append_eq_nil_iff.mp impossible).2
        rcases heard' with impossible | ⟨_, ⟨⟩, rest'⟩
        · cases (List.append_eq_nil_iff.mp impossible).2
        obtain ⟨rfl, same⟩ := ih answer rest rest' (List.forall_mem_cons.mp others).2
          (List.forall_mem_cons.mp others').2 unchanged.tail
        exact ⟨rfl, same⟩

end Answers

instance : DecidableEq relaying.Call := inferInstanceAs (DecidableEq Call)

instance : DecidableEq relaying.cancellable.Call := inferInstanceAs (DecidableEq Call)

def Call.note? : Call → Option Note
  | .note n => some n
  | _ => none

def Trace.notes (trace : Trace relaying) : List Note := trace.filterMap (·.call.note?)

@[simp] theorem Trace.notes_nil : Trace.notes [] = [] := rfl

@[simp] theorem Trace.notes_cons (event : Event relaying) (trace : Trace relaying) :
    Trace.notes (event :: trace) = event.call.note?.toList ++ trace.notes := by
  unfold Trace.notes
  cases noted : event.call.note? <;> simp [noted]

@[simp] theorem Trace.notes_append (first second : Trace relaying) :
    Trace.notes (first ++ second) = first.notes ++ second.notes :=
  List.filterMap_append

def Trace.calls (trace : Trace relaying) : List Call := trace.map (·.call)

@[simp] theorem Trace.calls_nil : Trace.calls [] = [] := rfl

@[simp] theorem Trace.calls_cons (call : Call) (reply : Option (relaying.Reply call))
    (trace : Trace relaying) : Trace.calls (⟨call, reply⟩ :: trace) = call :: trace.calls := rfl

@[simp] theorem Trace.calls_append (first second : Trace relaying) :
    Trace.calls (first ++ second) = first.calls ++ second.calls :=
  List.map_append

/-- The notes of a row are taken. -/
def Trace.Taken (trace : Trace relaying) : Prop :=
  ∀ event ∈ trace, event.reply = none → event.call.note? = none

theorem Trace.Taken.answered {trace : Trace relaying} (taken : trace.Taken) {n : Note}
    {reply : Option Unit} (member : ⟨.note n, reply⟩ ∈ trace) : reply = some () := by
  cases reply with
  | none => cases taken _ member rfl
  | some _ => rfl

namespace Action

variable {α β : Type}

/-- A run of two actions in a row runs through the first and then the second, unless the first
ends in a fault or is broken off. -/
theorem runs_bind {a : Action α} {f : α → Action β} {trace : Trace relaying}
    {outcome : Option (Except Fault β)} (run : (a >>= f).run.Runs trace outcome) :
    (∃ x before after, trace = before ++ after ∧ a.run.Runs before (some (.ok x)) ∧
      (f x).run.Runs after outcome) ∨
    (∃ fault, outcome = some (.error fault) ∧ a.run.Runs trace (some (.error fault))) ∨
    (outcome = none ∧ a.run.Runs trace none) := by
  rcases Program.runs_bind run with ⟨r, before, after, rfl, first, second⟩ | broken
  · cases r with
    | ok x => exact .inl ⟨x, before, after, rfl, first, second⟩
    | error fault =>
      obtain ⟨rfl, rfl⟩ := Program.runs_done second
      rw [List.append_nil]
      exact .inr (.inl ⟨fault, rfl, first⟩)
  · exact .inr (.inr broken)

/-- Two actions in a row that end well have run through both. -/
theorem runs_bind_ok {a : Action α} {f : α → Action β} {trace : Trace relaying} {y : β}
    (run : (a >>= f).run.Runs trace (some (.ok y))) :
    ∃ x before after, trace = before ++ after ∧ a.run.Runs before (some (.ok x)) ∧
      (f x).run.Runs after (some (.ok y)) := by
  rcases runs_bind run with both | ⟨fault, impossible, _⟩ | ⟨impossible, _⟩
  · exact both
  · cases impossible
  · cases impossible

/-- Two actions in a row that end in a fault met it in the first or in the second. -/
theorem runs_bind_error {a : Action α} {f : α → Action β} {trace : Trace relaying}
    {fault : Fault} (run : (a >>= f).run.Runs trace (some (.error fault))) :
    (∃ x before after, trace = before ++ after ∧ a.run.Runs before (some (.ok x)) ∧
      (f x).run.Runs after (some (.error fault))) ∨ a.run.Runs trace (some (.error fault)) := by
  rcases runs_bind run with both | ⟨other, same, first⟩ | ⟨impossible, _⟩
  · exact .inl both
  · cases same
    exact .inr first
  · cases impossible

/-- After an action that is one question a program goes on with the answer, unless there is none
or it is a fault. -/
theorem question_bind_runs {a : Action α} {f : α → Action β} {trace : Trace relaying}
    {outcome : Option (Except Fault β)} {event : Option (Except Fault α) → Event relaying}
    (run : (a >>= f).run.Runs trace outcome) (asks : ∀ {t r}, a.run.Runs t r → t = [event r]) :
    (∃ failure : Option Fault, trace = [event (failure.map .error)] ∧
      outcome = failure.map .error) ∨
    ∃ x after, trace = event (some (.ok x)) :: after ∧ (f x).run.Runs after outcome := by
  rcases runs_bind run with ⟨x, _, after, rfl, asked, rest⟩ | ⟨fault, rfl, asked⟩ | ⟨rfl, asked⟩
  · obtain rfl := asks asked
    exact .inr ⟨x, after, rfl, rest⟩
  · exact .inl ⟨some fault, asks asked, rfl⟩
  · exact .inl ⟨none, asks asked, rfl⟩

/-- An action that begins with one question and comes to its end goes on with the answer, unless
that is a fault. -/
theorem question_bind_ended {a : Action α} {f : α → Action β} {trace : Trace relaying}
    {ended : Except Fault β} {event : Option (Except Fault α) → Event relaying}
    (run : (a >>= f).run.Runs trace (some ended))
    (asks : ∀ {t r}, a.run.Runs t r → t = [event r]) :
    (∃ fault, trace = [event (some (.error fault))] ∧ ended = .error fault) ∨
    ∃ x after, trace = event (some (.ok x)) :: after ∧ (f x).run.Runs after (some ended) := by
  rcases question_bind_runs run asks with ⟨failure, rfl, same⟩ | heard
  · cases failure with
    | none => cases same
    | some fault => exact .inl ⟨fault, rfl, Option.some.inj same⟩
  · exact .inr heard

theorem asks_bind {P : Call → Prop} {a : Action α} {f : α → Action β}
    (first : a.run.Asks (I := relaying) P) (second : ∀ x, (f x).run.Asks (I := relaying) P) :
    (a >>= f).run.Asks (I := relaying) P := by
  refine Program.Asks.bind first ?_
  intro r
  cases r with
  | ok x => exact second x
  | error fault => trivial

/-- Where the first of two actions only asks questions of some sort, a run comes to the second, or
asks no others and does not end well. -/
theorem runs_bind_of_asks {P : Call → Prop} {a : Action α} {f : α → Action β}
    {trace : Trace relaying} {outcome : Option (Except Fault β)}
    (asks : a.run.Asks (I := relaying) P) (run : (a >>= f).run.Runs trace outcome) :
    (∃ x before after, trace = before ++ after ∧ a.run.Runs before (some (.ok x)) ∧
      (f x).run.Runs after outcome) ∨
    ((∀ event ∈ trace, P event.call) ∧ ∀ y, outcome ≠ some (.ok y)) := by
  rcases runs_bind run with both | ⟨fault, rfl, first⟩ | ⟨rfl, first⟩
  · exact .inl both
  · refine .inr ⟨asks.mem first, fun y => ?_⟩
    rintro ⟨⟩
  · refine .inr ⟨asks.mem first, fun y => ?_⟩
    rintro ⟨⟩

theorem outcome_runs {a : Action α} {trace : Trace relaying}
    {result : Option (Except Fault (Except Fault α))}
    (run : a.outcome.run.Runs trace result) :
    (∃ r, result = some (.ok r) ∧ a.run.Runs trace (some r)) ∨
      (result = none ∧ a.run.Runs trace none) := by
  rcases Program.runs_bind run with ⟨r, before, after, rfl, first, second⟩ | broken
  · obtain ⟨rfl, rfl⟩ := Program.runs_done second
    rw [List.append_nil]
    exact .inl ⟨r, rfl, first⟩
  · exact .inr broken

/-- After the outcome of an action one that comes to its end goes on in any case. -/
theorem runs_outcome_bind {a : Action α} {f : Except Fault α → Action β} {trace : Trace relaying}
    {ended : Except Fault β} (run : (a.outcome >>= f).run.Runs trace (some ended)) :
    ∃ x before after, trace = before ++ after ∧ a.run.Runs before (some x) ∧
      (f x).run.Runs after (some ended) := by
  rcases runs_bind run with
    ⟨x, before, after, rfl, first, rest⟩ | ⟨fault, -, first⟩ | ⟨impossible, -⟩
  · rcases outcome_runs first with ⟨r, same, first⟩ | ⟨impossible, -⟩
    · cases same
      exact ⟨x, before, after, rfl, first, rest⟩
    · cases impossible
  · rcases outcome_runs first with ⟨r, impossible, -⟩ | ⟨impossible, -⟩ <;> cases impossible
  · cases impossible

theorem outcome_bind_ended {a : Action α} {f : Except Fault α → Action β} {trace : Trace relaying}
    {ended : Except Fault β} {event : Option (Except Fault α) → Event relaying}
    (run : (a.outcome >>= f).run.Runs trace (some ended))
    (asks : ∀ {t r}, a.run.Runs t r → t = [event r]) :
    ∃ x after, trace = event (some x) :: after ∧ (f x).run.Runs after (some ended) := by
  obtain ⟨x, _, after, rfl, asked, rest⟩ := runs_outcome_bind run
  obtain rfl := asks asked
  exact ⟨x, after, rfl, rest⟩

section Surroundings

variable {σ : Type} (answer : (call : Call) → σ → call.Answer × σ) (s : σ)

/-- Surroundings that always answer bring about a run of an action to its end. -/
theorem exists_runs (action : Action α) :
    ∃ trace, action.run.Runs trace (some (action.run.run answer s).1) ∧
      ∀ event ∈ trace, ∃ t, event.reply = some (answer event.call t).1 :=
  Program.exists_runs_run (I := relaying) answer action.run s

/-- After an action that ended well the next one runs where it left off. -/
theorem run_bind_ok {answer : (call : Call) → σ → call.Answer × σ} {s t : σ} {a : Action α}
    {f : α → Action β} {x : α} (first : a.run.run answer s = (.ok x, t)) :
    (a >>= f).run.run answer s = (f x).run.run answer t := by
  have both := Program.run_bind (I := relaying) answer a.run (ExceptT.bindCont f) s
  rw [first] at both
  exact both

theorem run_outcome (a : Action α) :
    a.outcome.run.run answer s = (.ok (a.run.run answer s).1, (a.run.run answer s).2) :=
  Program.run_bind (I := relaying) answer a.run _ s

theorem run_note (n : Note) :
    (note n).run.run answer s = (.ok (), (answer (.note n) s).2) :=
  rfl

end Surroundings

end Action

end HeaderRelay
