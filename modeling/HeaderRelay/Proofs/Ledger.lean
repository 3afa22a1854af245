import HeaderRelay.Ledger.Contract
import HeaderRelay.Proofs.Trace
import Mathlib.Algebra.Group.Nat.Defs
import Mathlib.Logic.Function.Basic

set_option autoImplicit false

namespace HeaderRelay.Ledger

namespace Abi

variable {a b rest : Bytes}

theorem number_append_singleton (bytes : Bytes) (b : UInt8) :
    number (bytes ++ [b]) = number bytes * 256 + b.toNat := by
  rw [number, List.foldl_append]
  rfl

theorem number_wordFrom (count n : Nat) : number (wordFrom count n) = n % 256 ^ count := by
  induction count generalizing n with
  | zero =>
    rw [Nat.pow_zero, Nat.mod_one]
    rfl
  | succ count ih =>
    have byte : (UInt8.ofNat (n % 256)).toNat = n % 256 :=
      UInt8.toNat_ofNat_of_lt' (Nat.mod_lt _ (by decide))
    have split := Nat.mod_mul (x := n) (a := 256) (b := 256 ^ count)
    rw [wordFrom, number_append_singleton, ih, byte, Nat.pow_succ', split]
    omega

/-- A number of 256 bits is the number of its word. -/
theorem number_word {n : Nat} (fits : n < 2 ^ 256) : number (word n) = n := by
  have size : 256 ^ wordSize = 2 ^ 256 := by decide
  rw [word, number_wordFrom, size, Nat.mod_eq_of_lt fits]

theorem wordAt?_zero (size : a.length = 32) (rest : Bytes) : wordAt? (a ++ rest) 0 = some a := by
  have first : (a ++ rest).take wordSize = a := by
    rw [wordSize, ← size, List.take_left]
  rw [wordAt?, Nat.mul_zero, List.drop_zero]
  simp only [first]
  exact if_pos size

theorem wordAt?_succ (size : a.length = 32) (rest : Bytes) (index : Nat) :
    wordAt? (a ++ rest) (index + 1) = wordAt? rest index := by
  have later : (a ++ rest).drop (wordSize * (index + 1)) = rest.drop (wordSize * index) := by
    have sum : wordSize * (index + 1) = a.length + wordSize * index := by
      rw [size, wordSize]
      omega
    rw [sum, ← List.drop_drop, List.drop_left]
  rw [wordAt?, wordAt?, later]

end Abi

/-- What the contract keeps: the word of the checkpoint, and two words for every word. -/
structure Book where
  checkpoint : Bytes
  saved : Bytes → Bytes × Bytes

namespace Book

def returned (book : Book) (data : Bytes) : Option Bytes :=
  if data.take 4 = Method.latestCheckpoint.selector then some book.checkpoint
  else if data.take 4 = Method.epochHashes.selector then
    (Abi.wordAt? (data.drop 4) 0).map fun height =>
      (book.saved height).1 ++ (book.saved height).2
  else none

/-- What a transaction makes of the contract. One that saves hashes stores its three words, unless
it is too short; any other leaves them alone. -/
def execute (book : Book) (data : Bytes) : Option Book :=
  if data.take 4 = Method.saveEpochHashes.selector then
    match Abi.wordAt? (data.drop 4) 0, Abi.wordAt? (data.drop 4) 1,
      Abi.wordAt? (data.drop 4) 2 with
    | some previous, some current, some height =>
        some ⟨height, Function.update book.saved height (previous, current)⟩
    | _, _, _ => none
  else some book

theorem execute_save (book : Book) {previous current height : Bytes}
    (first : previous.length = 32) (second : current.length = 32) (third : height.length = 32) :
    book.execute (Method.saveEpochHashes.selector ++ (previous ++ current ++ height)) =
      some ⟨height, Function.update book.saved height (previous, current)⟩ := by
  have last := Abi.wordAt?_zero third []
  rw [List.append_nil] at last
  show (match Abi.wordAt? (previous ++ current ++ height) 0,
    Abi.wordAt? (previous ++ current ++ height) 1,
    Abi.wordAt? (previous ++ current ++ height) 2 with
  | some previous, some current, some height =>
      some (Book.mk height (Function.update book.saved height (previous, current)))
  | _, _, _ => none) = _
  simp only [List.append_assoc, Abi.wordAt?_zero first, Abi.wordAt?_succ first,
    Abi.wordAt?_zero second, Abi.wordAt?_succ second, last]

theorem returned_checkpoint (book : Book) :
    book.returned (Method.latestCheckpoint.selector ++ []) = some book.checkpoint := rfl

/-- The two words of a height are returned one after the other. -/
theorem returned_hashes (book : Book) {height : Bytes} (size : height.length = 32) :
    book.returned (Method.epochHashes.selector ++ height) =
      some ((book.saved height).1 ++ (book.saved height).2) := by
  have word := Abi.wordAt?_zero size []
  rw [List.append_nil] at word
  show (Abi.wordAt? height 0).map _ = _
  rw [word]
  rfl

end Book

/-- A contract behind its node. -/
structure Chain where
  book : Book
  /-- The hash and the data of the transactions that were sent and are still to be executed. -/
  pending : List (Bytes × Bytes)
  /-- The hashes of the transactions that were executed and succeeded. -/
  done : List Bytes

namespace Chain

def post (c : Chain) (hash data : Bytes) : Chain := { c with pending := (hash, data) :: c.pending }

/-- No transaction has the hash. -/
def Fresh (c : Chain) (hash : Bytes) : Prop := hash ∉ c.done ∧ hash ∉ c.pending.map Prod.fst

/-- A request may be answered so. A call is answered by the contract, and a receipt reports success
only for a transaction that was executed and succeeded. -/
def Allows (c : Chain) : (call : NodeCall) → call.Answer → Prop
  | .call data, reply => ∀ bytes, reply = some bytes → c.book.returned data = some bytes
  | .send _, reply => reply = none
  | .receipt hash, reply =>
      ∀ receipt, reply = some (some receipt) → receipt.status = some 1 → hash ∈ c.done
  | _, _ => True

/-- The node takes part in a request. A transaction may reach it although no answer came back. -/
inductive Serves : Chain → Event contractNode → Chain → Prop
  | unanswered (c : Chain) (call : NodeCall) : Serves c ⟨call, none⟩ c
  | answered {c : Chain} {call : NodeCall} {reply : call.Answer} (allowed : c.Allows call reply) :
      Serves c ⟨call, some reply⟩ c
  | lost {c : Chain} {hash : Bytes} (data : Bytes) (reply : Option (Option Bytes))
      (silent : ∀ hash, reply ≠ some (some hash)) (fresh : c.Fresh hash) :
      Serves c ⟨.send data, reply⟩ (c.post hash data)
  | sent {c : Chain} {hash : Bytes} (data : Bytes) (fresh : c.Fresh hash) :
      Serves c ⟨.send data, some (some hash)⟩ (c.post hash data)

/-- The chain executes a transaction, or drops it without effect. -/
inductive Settles : Chain → Chain → Prop
  | executed {c : Chain} {before after : List (Bytes × Bytes)} {hash data : Bytes} {book : Book}
      (queued : c.pending = before ++ (hash, data) :: after)
      (runs : c.book.execute data = some book) :
      Settles c ⟨book, before ++ after, hash :: c.done⟩
  | dropped {c : Chain} {before after : List (Bytes × Bytes)} {hash data : Bytes}
      (queued : c.pending = before ++ (hash, data) :: after) :
      Settles c { c with pending := before ++ after }

/-- A row of requests, with transactions executed and dropped in between. -/
inductive Serving : Chain → Trace contractNode → Chain → Prop
  | nil (c : Chain) : Serving c [] c
  | settled {c c' c'' : Chain} {trace : Trace contractNode} (step : Settles c c')
      (rest : Serving c' trace c'') : Serving c trace c''
  | served {c c' c'' : Chain} {event : Event contractNode} {trace : Trace contractNode}
      (step : Serves c event c') (rest : Serving c' trace c'') : Serving c (event :: trace) c''

/-- What may become of a transaction that was sent to a contract while nothing else was under
way. -/
inductive Flight (book : Book) (hash data : Bytes) : Chain → Prop
  | waiting {done : List Bytes} (other : hash ∉ done) :
      Flight book hash data ⟨book, [(hash, data)], done⟩
  | executed {after : Book} {done : List Bytes} (runs : book.execute data = some after)
      (member : hash ∈ done) : Flight book hash data ⟨after, [], done⟩
  | dropped {done : List Bytes} (other : hash ∉ done) : Flight book hash data ⟨book, [], done⟩

variable {c c' : Chain} {book : Book} {hash data : Bytes} {event : Event contractNode}
  {before after : Trace contractNode}

/-- Nothing happens to a chain by itself if nothing is under way. -/
theorem not_settles (idle : c.pending = []) : ¬ Settles c c' := by
  intro step
  cases step with
  | executed queued runs =>
    rw [idle] at queued
    cases (List.append_eq_nil_iff.mp queued.symm).2
  | dropped queued =>
    rw [idle] at queued
    cases (List.append_eq_nil_iff.mp queued.symm).2

theorem exists_alone {first second : List (Bytes × Bytes)} {entry other : Bytes × Bytes}
    (queued : [entry] = first ++ other :: second) : first = [] ∧ second = [] ∧ other = entry := by
  cases first with
  | nil =>
    cases queued
    exact ⟨rfl, rfl, rfl⟩
  | cons e first =>
    have later := (List.cons.inj queued).2
    cases (List.append_eq_nil_iff.mp later.symm).2

/-- The step by which a transaction is executed or dropped. -/
theorem Flight.settles (flight : Flight book hash data c) (step : Settles c c') :
    Flight book hash data c' := by
  cases flight with
  | waiting other =>
    cases step with
    | executed queued runs =>
      obtain ⟨rfl, rfl, ⟨⟩⟩ := exists_alone queued
      exact .executed runs List.mem_cons_self
    | dropped queued =>
      obtain ⟨rfl, rfl, ⟨⟩⟩ := exists_alone queued
      exact .dropped other
  | executed runs member => exact absurd step (not_settles rfl)
  | dropped other => exact absurd step (not_settles rfl)

def sends (event : Event contractNode) : Bool :=
  match event.call with
  | .send _ => true
  | _ => false

theorem Serves.eq_of_not_sends (step : Serves c event c') (quiet : sends event = false) :
    c' = c := by
  cases step with
  | unanswered => rfl
  | answered => rfl
  | lost => cases quiet
  | sent => cases quiet

/-- What has become of a transaction after some requests that send nothing else. -/
theorem Flight.serving {trace : Trace contractNode} (flight : Flight book hash data c)
    (serving : Serving c trace c') (quiet : ∀ event ∈ trace, sends event = false) :
    Flight book hash data c' := by
  induction serving with
  | nil c => exact flight
  | settled step rest ih => exact ih (flight.settles step) quiet
  | served step rest ih =>
    obtain ⟨first, others⟩ := List.forall_mem_cons.mp quiet
    have same := step.eq_of_not_sends first
    exact ih (same ▸ flight) others

theorem Serving.append_inv (serving : Serving c (before ++ after) c') :
    ∃ middle, Serving c before middle ∧ Serving middle after c' := by
  generalize whole : before ++ after = trace at serving
  induction serving generalizing before with
  | nil c =>
    obtain ⟨rfl, rfl⟩ := List.append_eq_nil_iff.mp whole
    exact ⟨c, .nil c, .nil c⟩
  | settled step rest ih =>
    obtain ⟨middle, first, second⟩ := ih whole
    exact ⟨middle, .settled step first, second⟩
  | @served c d c'' event trace step rest ih =>
    cases before with
    | nil =>
      cases whole
      exact ⟨c, .nil c, .served step rest⟩
    | cons e before =>
      cases whole
      obtain ⟨middle, first, second⟩ := ih rfl
      exact ⟨middle, .served step first, second⟩

/-- With nothing under way, requests that send nothing leave the chain alone. -/
theorem Serving.eq_of_idle {trace : Trace contractNode} (serving : Serving c trace c')
    (idle : c.pending = []) (quiet : ∀ event ∈ trace, sends event = false) : c' = c := by
  induction serving with
  | nil c => rfl
  | settled step rest ih => exact absurd step (not_settles idle)
  | served step rest ih =>
    obtain ⟨first, others⟩ := List.forall_mem_cons.mp quiet
    cases step.eq_of_not_sends first
    exact ih idle others

/-- Before a request is served, only what happens by itself has happened. -/
theorem Serving.cons_inv {P : Chain → Prop} {trace : Trace contractNode}
    (kept : ∀ {c c'}, P c → Settles c c' → P c') (serving : Serving c (event :: trace) c')
    (holds : P c) : ∃ d d', P d ∧ Serves d event d' ∧ Serving d' trace c' := by
  generalize whole : event :: trace = row at serving
  induction serving with
  | nil c => cases whole
  | settled step rest ih => exact ih (kept holds step) whole
  | served step rest ih =>
    cases whole
    exact ⟨_, _, holds, step, rest⟩

/-- With nothing under way, the next request is served as things are. -/
theorem Serving.cons_inv_of_idle {trace : Trace contractNode}
    (serving : Serving c (event :: trace) c') (idle : c.pending = []) :
    ∃ d, Serves c event d ∧ Serving d trace c' := by
  have kept : ∀ {d d'}, d = c → Settles d d' → d' = c := by
    rintro d d' rfl step
    exact absurd step (not_settles idle)
  obtain ⟨_, d', rfl, step, rest⟩ := serving.cons_inv kept rfl
  exact ⟨d', step, rest⟩

/-- The step by which a transaction is sent while nothing else is under way. -/
theorem Serves.flight (step : Serves c ⟨.send data, some (some hash)⟩ c') (idle : c.pending = []) :
    Flight c.book hash data c' := by
  cases step with
  | answered allowed => cases allowed
  | lost _ _ silent _ => exact absurd rfl (silent hash)
  | sent _ fresh =>
    rw [post, idle]
    exact .waiting fresh.1

theorem Flight.of_receipt {receipt : Receipt} (flight : Flight book hash data c)
    (step : Serves c ⟨.receipt hash, some (some (some receipt))⟩ c')
    (succeeded : receipt.status = some 1) :
    c'.pending = [] ∧ book.execute data = some c'.book := by
  cases step with
  | answered allowed =>
    have member := allowed receipt rfl succeeded
    cases flight with
    | waiting other => exact absurd member other
    | executed runs member => exact ⟨rfl, runs⟩
    | dropped other => exact absurd member other

/-- A transaction that is sent while nothing else is under way and whose receipt reports success
leaves the contract as it makes it, whatever is asked before, in between and at last. -/
theorem Serving.executed {first between : Trace contractNode} {receipt : Receipt}
    (serving : Serving c (first ++ ⟨.send data, some (some hash)⟩ ::
      (between ++ [⟨.receipt hash, some (some (some receipt))⟩])) c')
    (idle : c.pending = []) (quiet : ∀ event ∈ first, sends event = false)
    (calm : ∀ event ∈ between, sends event = false) (succeeded : receipt.status = some 1) :
    c'.pending = [] ∧ c.book.execute data = some c'.book := by
  obtain ⟨start, before, serving⟩ := serving.append_inv
  cases before.eq_of_idle idle quiet
  obtain ⟨posted, step, serving⟩ := serving.cons_inv_of_idle idle
  have flight := step.flight idle
  obtain ⟨waited, during, serving⟩ := serving.append_inv
  have later := flight.serving during calm
  obtain ⟨asked, told, flying, answer, rest⟩ := serving.cons_inv Flight.settles later
  have final := flying.of_receipt answer succeeded
  cases rest.eq_of_idle final.1 (by simp)
  exact final

end Chain

end HeaderRelay.Ledger
