import HeaderRelay.Proofs.Canonicity
import HeaderRelay.Proofs.Ledger
import HeaderRelay.Proofs.Transaction

set_option autoImplicit false

namespace HeaderRelay.Ledger

variable {α β : Type} {method : Method} {data hash : Bytes} {trace : Trace contractNode}

/-- A commit that ends well has sent the words of its hashes and its height, and has seen that
transaction succeed. -/
theorem commit_runs_ok {previous current : String} {height : Nat}
    (run : (commit previous current height).run.Runs trace (some (.ok ()))) :
    ∃ p c hash nonce gas found receipt, hashBytes previous = .ok p ∧ hashBytes current = .ok c ∧
      receipt.status = some 1 ∧
      trace = [⟨.nonce, some nonce⟩,
        ⟨.gas (Method.saveEpochHashes.selector ++ (p ++ c ++ Abi.word height)), some gas⟩] ++
        ⟨.send (Method.saveEpochHashes.selector ++ (p ++ c ++ Abi.word height)),
          some (some hash)⟩ ::
        ([⟨.find hash, some found⟩] ++ [⟨.receipt hash, some (some (some receipt))⟩]) := by
  obtain ⟨p, _, _, rfl, first, further⟩ := runs_bind_ok run
  obtain ⟨rfl, one⟩ := runs_known first
  obtain ⟨c, _, _, rfl, second, writes⟩ := runs_bind_ok further
  obtain ⟨rfl, two⟩ := runs_known second
  cases write_cases writes with
  | @sent _ _ hash _ sent confirmed =>
    cases sent with
    | taken nonce gas =>
      cases confirmed with
      | included succeeded =>
        exact ⟨p, c, hash, some nonce, some gas, some true, _, one, two, succeeded, rfl⟩

/-- After a commit that ends well the contract holds what was committed, and nothing is under
way. -/
theorem Chain.Serving.committed {start finish : Chain} {previous current : String} {height : Nat}
    (serving : Chain.Serving start trace finish) (idle : start.pending = [])
    (run : (commit previous current height).run.Runs trace (some (.ok ()))) :
    ∃ p c, hashBytes previous = .ok p ∧ hashBytes current = .ok c ∧ finish.pending = [] ∧
      finish.book = ⟨Abi.word height,
        Function.update start.book.saved (Abi.word height) (p, c)⟩ := by
  obtain ⟨p, c, hash, nonce, gas, found, receipt, one, two, succeeded, rfl⟩ := commit_runs_ok run
  obtain ⟨settled, executed⟩ :=
    serving.executed idle (by simp [Chain.sends]) (by simp [Chain.sends]) succeeded
  have size := (hashText_of_hashBytes one).2
  have size' := (hashText_of_hashBytes two).2
  rw [Book.execute_save _ size size' (Abi.length_word height)] at executed
  exact ⟨p, c, one, two, settled, (Option.some.inj executed).symm⟩

theorem runs_send (method : Method) (data hash : Bytes) (nonce gas : Nat) :
    (send method data).run.Runs [⟨.nonce, some (some nonce)⟩, ⟨.gas data, some (some gas)⟩,
      ⟨.send data, some (some hash)⟩] (some (.ok hash)) := by
  refine @Program.Runs.answered contractNode _ .nonce _ _ _ (some nonce) ?_
  refine @Program.Runs.answered contractNode _ (.gas data) _ _ _ (some gas) ?_
  exact @Program.Runs.answered contractNode _ (.send data) _ _ _ (some hash) (.done _)

theorem runs_confirm (method : Method) (hash : Bytes) (block : Option Nat) :
    (confirm method hash).run.Runs [⟨.find hash, some (some true)⟩,
      ⟨.receipt hash, some (some (some ⟨hash, some 1, block⟩))⟩] (some (.ok ())) := by
  refine @Program.Runs.answered contractNode _ (.find hash) _ _ _ (some true) ?_
  exact @Program.Runs.answered contractNode _ (.receipt hash) _ _ _
    (some (some ⟨hash, some 1, block⟩)) (.done _)

/-- Hashes and a height can be committed to a contract while nothing is under way. -/
theorem Chain.exists_commit {start : Chain} (idle : start.pending = []) {previous current : String}
    {p c hash : Bytes} (one : hashBytes previous = .ok p) (two : hashBytes current = .ok c)
    (height : Nat) (unused : hash ∉ start.done) :
    ∃ trace finish, (commit previous current height).run.Runs trace (some (.ok ())) ∧
      Chain.Serving start trace finish := by
  have same : (commit previous current height).run =
      (write .saveEpochHashes (p ++ c ++ Abi.word height)).run := by
    show ((ExceptT.mk (.done (hashBytes previous)) >>= fun p : Bytes =>
      ExceptT.mk (.done (hashBytes current)) >>= fun c : Bytes =>
        write .saveEpochHashes (p ++ c ++ Abi.word height) : Session Unit)).run = _
    rw [one, two]
    rfl
  have run : (write .saveEpochHashes (p ++ c ++ Abi.word height)).run.Runs (_ ++ _)
      (some (.ok ())) :=
    Program.Runs.bind (runs_send .saveEpochHashes _ hash 0 0)
      (runs_confirm .saveEpochHashes hash none)
  have size := (hashText_of_hashBytes one).2
  have size' := (hashText_of_hashBytes two).2
  have stores := start.book.execute_save size size' (Abi.length_word height)
  have fresh : start.Fresh hash := ⟨unused, by rw [idle]; exact List.not_mem_nil⟩
  rw [same]
  generalize Method.saveEpochHashes.selector ++ (p ++ c ++ Abi.word height) = data at run stores
  refine ⟨_, ⟨⟨Abi.word height, Function.update start.book.saved (Abi.word height) (p, c)⟩,
    [] ++ start.pending, hash :: start.done⟩, run, ?_⟩
  -- The node knows the nonce and the gas, takes the transaction, executes it and reports so.
  refine .served (.answered trivial) (.served (.answered trivial) (.served (.sent _ fresh) ?_))
  have queued : (start.post hash data).pending = [] ++ (hash, data) :: start.pending := rfl
  refine .settled (.executed queued stores) (.served (.answered trivial) (.served (.answered ?_)
    (.nil _)))
  intro receipt _ _
  exact List.mem_cons_self

def NodeCall.refused : (call : NodeCall) → call.Answer
  | .chainId => none
  | .call _ => none
  | .nonce => none
  | .gas _ => none
  | .send _ => none
  | .find _ => none
  | .receipt _ => none

/-- A session may end so at a chain whose node fails at no request. -/
def Reads (c : Chain) (session : Session α) (outcome : Except Fault α) : Prop :=
  ∃ trace c', session.run.Runs trace (some outcome) ∧ Chain.Serving c trace c' ∧
    ∀ event ∈ trace, event.reply ≠ some (NodeCall.refused event.call)

/-- A session that begins with a call goes on with what is made of the answer, if there is anything
to be made of it. -/
theorem read_bind_run {arguments : Bytes} {decode : Bytes → Option α} {next : α → Session β} :
    (read method arguments decode >>= next).run =
      .ask (.call (method.selector ++ arguments)) fun reply : Option Bytes =>
        match reply.bind decode with
        | some a => (next a).run
        | none => .done (.error (fault (method.name ++ ": *"))) := by
  show Program.ask (I := contractNode) _ _ = _
  congr 1
  funext (reply : Option Bytes)
  cases reply with
  | none => rfl
  | some bytes =>
    show (ExceptT.run ((match decode bytes with
      | some a => pure a
      | none => throw (fault (method.name ++ ": *")) : Session α) >>= next)) = _
    rw [Option.bind_some]
    cases decode bytes <;> rfl

/-- A session that calls the contract once and knows what to make of the answer ends in one way. -/
theorem reads_iff {c : Chain} (idle : c.pending = []) {arguments bytes : Bytes}
    (returned : c.book.returned (method.selector ++ arguments) = some bytes)
    {decode : Bytes → Option α} {a : α} (decoded : decode bytes = some a)
    {next : α → Session β} {result : Except Fault β} (known : (next a).run = .done result)
    (outcome : Except Fault β) :
    Reads c (read method arguments decode >>= next) outcome ↔ outcome = result := by
  rw [Reads, read_bind_run]
  constructor
  · rintro ⟨trace, c', run, serving, heard⟩
    cases run with
    | answered reply rest =>
      obtain ⟨d, step, -⟩ := serving.cons_inv_of_idle idle
      have same : reply = some bytes := by
        cases step with
        | answered allowed =>
          cases reply with
          | none => exact absurd rfl (heard _ List.mem_cons_self)
          | some other => exact (allowed other rfl).symm.trans returned
      subst same
      dsimp only at rest
      rw [Option.bind_some, decoded] at rest
      dsimp only at rest
      rw [known] at rest
      exact Option.some.inj (Program.runs_done rest).2
  · rintro rfl
    have rest : ((match (some bytes).bind decode with
        | some a => (next a).run
        | none => .done (.error (fault (method.name ++ ": *")))) :
          Program contractNode (Except Fault β)).Runs [] (some outcome) := by
      rw [Option.bind_some, decoded]
      dsimp only
      rw [known]
      exact .done outcome
    have allowed : c.Allows (.call (method.selector ++ arguments)) (some bytes) := by
      rintro other ⟨⟩
      exact returned
    refine ⟨_, c, .answered (some bytes) rest, .served (.answered allowed) (.nil c), ?_⟩
    intro event member
    rw [List.mem_singleton.mp member]
    rintro ⟨⟩

/-- The checkpoint that is read is the number that the contract keeps, and no other: one that does
not fit in 64 bits is a fault. -/
theorem reads_checkpoint {c : Chain} (idle : c.pending = []) {n : Nat} (fits : n < 2 ^ 256)
    (kept : c.book.checkpoint = Abi.word n) (outcome : Except Fault Nat) :
    Reads c readCheckpoint outcome ↔ outcome = fitting "Checkpoint height" n := by
  have returned := c.book.returned_checkpoint
  have word := Abi.wordAt?_zero (Abi.length_word n) []
  rw [List.append_nil] at word
  have decoded : Abi.number? (Abi.word n) = some n := by
    rw [Abi.number?, word, Option.map_some, Abi.number_word fits]
  rw [kept] at returned
  exact reads_iff idle returned decoded rfl outcome

/-- The hashes that are read for a height are those of its two words, unless one is all zeros. -/
theorem reads_epochHashes {c : Chain} (idle : c.pending = []) {height : Nat}
    {previous current : Bytes} (first : previous.length = 32) (second : current.length = 32)
    (kept : c.book.saved (Abi.word height) = (previous, current))
    (outcome : Except Fault EpochHashes) :
    Reads c (readEpochHashes height) outcome ↔ outcome =
      if isZero previous || isZero current then
        .error (fault ("No epoch hashes saved for height " ++ toString height))
      else .ok ⟨hashText previous, hashText current⟩ := by
  have returned := c.book.returned_hashes (Abi.length_word height)
  have word := Abi.wordAt?_zero second []
  rw [List.append_nil] at word
  have decoded : Abi.pair? (previous ++ current) = some (previous, current) := by
    simp only [Abi.pair?, Abi.wordAt?_zero first, Abi.wordAt?_succ first, word]
  rw [kept] at returned
  refine reads_iff idle returned decoded ?_ outcome
  by_cases zero : (isZero previous || isZero current) = true
  · simp only [zero, if_true]
    rfl
  · simp only [zero]
    rfl

def zeroHash : String := hashText (List.replicate 32 0)

/-- Only one hash has the word that stands for no hash. -/
theorem isZero_iff {hash : String} {bytes : Bytes} (taken : hashBytes hash = .ok bytes) :
    isZero bytes = true ↔ hash = zeroHash := by
  obtain ⟨same, size⟩ := hashText_of_hashBytes taken
  constructor
  · intro zero
    have zeros : bytes = List.replicate 32 0 := by
      rw [List.eq_replicate_iff]
      refine ⟨size, fun b member => ?_⟩
      exact beq_iff_eq.mp (List.all_eq_true.mp zero b member)
    rw [← same, zeros, zeroHash]
  · rintro rfl
    have zeros : hashBytes zeroHash = .ok (List.replicate 32 0) := by decide +kernel
    cases zeros.symm.trans taken
    rfl

/-- What is committed is what is read back. -/
theorem committed_read_back :
    (∀ (previous current : String) (height : Nat), height < 2 ^ 64 →
      ∀ (start finish : Chain) (trace : Trace contractNode), start.pending = [] →
        (commit previous current height).run.Runs trace (some (.ok ())) →
        Chain.Serving start trace finish →
          (∀ outcome, Reads finish readCheckpoint outcome ↔ outcome = .ok height) ∧
          ∀ outcome, Reads finish (readEpochHashes height) outcome ↔ outcome =
            if previous = zeroHash ∨ current = zeroHash then
              .error (fault ("No epoch hashes saved for height " ++ toString height))
            else .ok ⟨previous, current⟩) ∧
    (∀ n < 2 ^ 256, ∀ c : Chain, c.pending = [] → c.book.checkpoint = Abi.word n →
      ∀ outcome, Reads c readCheckpoint outcome ↔ outcome =
        if n < 2 ^ 64 then .ok n
        else .error ⟨.parse, "Checkpoint height " ++ toString n ++ " does not fit in u64"⟩) := by
  constructor
  · intro previous current height fits start finish trace idle run serving
    obtain ⟨p, c, one, two, settled, book⟩ := serving.committed idle run
    obtain ⟨text, size⟩ := hashText_of_hashBytes one
    obtain ⟨text', size'⟩ := hashText_of_hashBytes two
    constructor
    · intro outcome
      have kept : finish.book.checkpoint = Abi.word height := by rw [book]
      have small : height < 2 ^ 256 := Nat.lt_trans fits (by decide)
      have within : fitting "Checkpoint height" height = .ok height := if_pos fits
      rw [reads_checkpoint settled small kept, within]
    · intro outcome
      have kept : finish.book.saved (Abi.word height) = (p, c) := by
        rw [book]
        dsimp only
        rw [Function.update_self]
      rw [reads_epochHashes settled size size' kept, text, text']
      simp only [Bool.or_eq_true, isZero_iff one, isZero_iff two]
  · intro n fits c idle kept outcome
    rw [reads_checkpoint idle fits kept]
    rfl

theorem committed_read_back_first :
    ∃ (finish : Chain) (trace : Trace contractNode),
      (commit "11111111111111111111111111111112" "11111111111111111111111111111113" 7).run.Runs
        trace (some (.ok ())) ∧
      Chain.Serving ⟨⟨Abi.word 0, fun word => (word, word)⟩, [], []⟩ trace finish ∧
      Reads finish readCheckpoint (.ok 7) ∧
      Reads finish (readEpochHashes 7)
        (.ok ⟨"11111111111111111111111111111112", "11111111111111111111111111111113"⟩) ∧
      ∀ outcome, Reads ⟨⟨Abi.word (2 ^ 64), fun word => (word, word)⟩, [], []⟩ readCheckpoint
        outcome ↔ outcome =
          .error ⟨.parse, "Checkpoint height 18446744073709551616 does not fit in u64"⟩ := by
  have one : hashBytes "11111111111111111111111111111112" = .ok (List.replicate 31 0 ++ [1]) := by
    decide +kernel
  have two : hashBytes "11111111111111111111111111111113" = .ok (List.replicate 31 0 ++ [2]) := by
    decide +kernel
  have unused : ([] : Bytes) ∉ (Chain.mk ⟨Abi.word 0, fun word => (word, word)⟩ [] []).done :=
    List.not_mem_nil
  obtain ⟨trace, finish, run, serving⟩ := Chain.exists_commit rfl one two 7 unused
  obtain ⟨checkpoint, hashes⟩ := committed_read_back.1 _ _ 7 (by decide) _ _ _ rfl run serving
  have large := committed_read_back.2 (2 ^ 64) (by decide)
    ⟨⟨Abi.word (2 ^ 64), fun word => (word, word)⟩, [], []⟩ rfl rfl
  refine ⟨finish, trace, run, serving, (checkpoint _).mpr rfl, (hashes _).mpr ?_, large⟩
  rw [if_neg (by decide +kernel)]

end HeaderRelay.Ledger
