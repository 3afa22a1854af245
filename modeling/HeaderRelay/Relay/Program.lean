/-
Computations that ask their surroundings questions. A program is a tree: it is done, or it asks
one question and goes on with each possible answer. Whoever runs it decides the answers, so a
statement about a program holds for all surroundings.
-/

set_option autoImplicit false

namespace HeaderRelay

/-- The questions that may be asked, and the type of the answers to each. -/
structure Interface where
  Call : Type
  Reply : Call → Type

def Interface.both (I J : Interface) : Interface :=
  ⟨I.Call ⊕ J.Call, fun
    | .inl call => I.Reply call
    | .inr call => J.Reply call⟩

/-- The questions of an interface where whoever asks may be told to stop in place of an answer. -/
def Interface.cancellable (I : Interface) : Interface :=
  ⟨I.Call, fun call => Option (I.Reply call)⟩

/-- A computation that asks questions of an interface. -/
inductive Program (I : Interface) (α : Type) : Type
  | done (a : α)
  | ask (call : I.Call) (next : I.Reply call → Program I α)

namespace Program

variable {I : Interface} {α β γ σ : Type}

def bind (p : Program I α) (f : α → Program I β) : Program I β :=
  match p with
  | .done a => f a
  | .ask call next => .ask call fun reply => (next reply).bind f

instance : Monad (Program I) where
  pure := .done
  bind := bind

def query (call : I.Call) : Program I (I.Reply call) := .ask call .done

def left {J : Interface} : Program I α → Program (I.both J) α
  | .done a => .done a
  | .ask call next => .ask (.inl call) fun reply => left (next reply)

def right {J : Interface} : Program I α → Program (J.both I) α
  | .done a => .done a
  | .ask call next => .ask (.inr call) fun reply => right (next reply)

/-- A program that is dropped where it stands once it is told to stop. -/
def cancellable : Program I α → Program I.cancellable (Option α)
  | .done a => .done (some a)
  | .ask call next => .ask call fun
      | some reply => (next reply).cancellable
      | none => .done none

def run (answer : (call : I.Call) → σ → I.Reply call × σ) : Program I α → σ → α × σ
  | .done a, s => (a, s)
  | .ask call next, s =>
      let (reply, s) := answer call s
      (next reply).run answer s

/-- Runs a program against surroundings that may never answer, in which case it has no
outcome. -/
def drive (answer : (call : I.Call) → σ → Option (I.Reply call) × σ) :
    Program I α → σ → Option α × σ
  | .done a, s => (some a, s)
  | .ask call next, s =>
      match answer call s with
      | (some reply, s) => (next reply).drive answer s
      | (none, s) => (none, s)

/-- Answers the questions of two interfaces, each by its own surroundings. -/
def answerBoth {J : Interface} {τ : Type}
    (first : (call : I.Call) → σ → Option (I.Reply call) × σ)
    (second : (call : J.Call) → τ → Option (J.Reply call) × τ) :
    (call : (I.both J).Call) → σ × τ → Option ((I.both J).Reply call) × (σ × τ)
  | .inl call, (s, t) =>
      let (reply, s) := first call s
      (reply, (s, t))
  | .inr call, (s, t) =>
      let (reply, t) := second call t
      (reply, (s, t))

@[simp] theorem done_bind (a : α) (f : α → Program I β) : (Program.done a).bind f = f a := rfl

@[simp] theorem ask_bind (call : I.Call) (next : I.Reply call → Program I α)
    (f : α → Program I β) : (Program.ask call next).bind f = .ask call fun r => (next r).bind f :=
  rfl

@[simp] theorem bind_done (p : Program I α) : p.bind .done = p := by
  induction p with
  | done a => rfl
  | ask call next ih => simp [ih]

theorem bind_bind (p : Program I α) (f : α → Program I β) (g : β → Program I γ) :
    (p.bind f).bind g = p.bind fun a => (f a).bind g := by
  induction p with
  | done a => rfl
  | ask call next ih => simp [ih]

instance : LawfulMonad (Program I) :=
  LawfulMonad.mk' _ (fun p => bind_done p) (fun _ _ => rfl) bind_bind

/-- A program runs the surroundings of its first part, then those of its second. -/
theorem run_bind (answer : (call : I.Call) → σ → I.Reply call × σ) (p : Program I α)
    (f : α → Program I β) (s : σ) :
    (p.bind f).run answer s = (f (p.run answer s).1).run answer (p.run answer s).2 := by
  induction p generalizing s with
  | done a => rfl
  | ask call next ih => simp [run, ih]

end Program

end HeaderRelay
