import HeaderRelay.Ledger.Contract
import HeaderRelay.Proofs.Trace

set_option autoImplicit false

namespace HeaderRelay.Ledger

variable {α β : Type} {method : Method} {data hash : Bytes} {trace : Trace contractNode}

/-- A session that ends has run through both of its parts, or its first part ended in the fault. -/
theorem runs_bind_ended {session : Session α} {next : α → Session β} {ended : Except Fault β}
    (run : (session >>= next).run.Runs trace (some ended)) :
    (∃ a before after, trace = before ++ after ∧ session.run.Runs before (some (.ok a)) ∧
      (next a).run.Runs after (some ended)) ∨
    ∃ fault, ended = .error fault ∧ session.run.Runs trace (some (.error fault)) := by
  obtain ⟨result, before, after, rfl, first, second⟩ := Program.runs_bind_ended run
  cases result with
  | ok a => exact .inl ⟨a, before, after, rfl, first, second⟩
  | error fault =>
    obtain ⟨rfl, ⟨⟩⟩ := Program.runs_done second
    rw [List.append_nil]
    exact .inr ⟨fault, rfl, first⟩

/-- A session that ends well has run through both of its parts. -/
theorem runs_bind_ok {session : Session α} {next : α → Session β} {b : β}
    (run : (session >>= next).run.Runs trace (some (.ok b))) :
    ∃ a before after, trace = before ++ after ∧ session.run.Runs before (some (.ok a)) ∧
      (next a).run.Runs after (some (.ok b)) := by
  rcases runs_bind_ended run with both | ⟨fault, impossible, -⟩
  · exact both
  · cases impossible

/-- What is known before is no question. -/
theorem runs_known {result ended : Except Fault α}
    (run : (ExceptT.mk (.done result) : Session α).run.Runs trace (some ended)) :
    trace = [] ∧ result = ended := by
  obtain ⟨rfl, same⟩ := Program.runs_done run
  exact ⟨rfl, (Option.some.inj same).symm⟩

/-- A session that begins with a question goes on with the answer. -/
theorem runs_ask_bind {call : NodeCall} {next : call.Answer → Session β} {ended : Except Fault β}
    (run : (ask call >>= next).run.Runs trace (some ended)) :
    ∃ reply after, trace = ⟨call, some reply⟩ :: after ∧
      (next reply).run.Runs after (some ended) := by
  cases run with
  | answered reply rest => exact ⟨reply, _, rfl, rest⟩

theorem runs_throw {fault : Fault} {ended : Except Fault α}
    (run : (throw fault : Session α).run.Runs trace (some ended)) :
    trace = [] ∧ ended = .error fault := by
  obtain ⟨rfl, same⟩ := Program.runs_done run
  exact ⟨rfl, Option.some.inj same⟩

theorem asks_bind {P : NodeCall → Prop} {session : Session α} {next : α → Session β}
    (first : session.run.Asks (I := contractNode) P)
    (second : ∀ a, (next a).run.Asks (I := contractNode) P) :
    (session >>= next).run.Asks (I := contractNode) P := by
  refine Program.Asks.bind first fun result => ?_
  cases result with
  | ok a => exact second a
  | error fault => trivial

/-- The fault of a transaction that could not be sent. -/
def unsentFault (method : Method) : Fault := fault ("Failed to send " ++ method.name ++ ": *")

def transactionText (method : Method) (hash : Bytes) : String :=
  method.name ++ " tx " ++ hexText hash

/-- The fault of a transaction that could not be looked for. -/
def lostFault (method : Method) (hash : Bytes) : Fault :=
  fault ("Failed to get receipt of " ++ transactionText method hash ++ ": *")

/-- The fault of a transaction that is nowhere to be found. -/
def droppedFault (method : Method) (hash : Bytes) : Fault :=
  fault (transactionText method hash ++ " dropped from mempool")

/-- The fault of a transaction whose receipt does not report success. -/
def revertedFault (method : Method) (receipt : Receipt) : Fault :=
  fault (transactionText method receipt.hash ++ " reverted in block " ++ blockText receipt.block)

inductive Sent (method : Method) (data : Bytes) : Trace contractNode → Except Fault Bytes → Prop
  /-- Its nonce is not told. -/
  | uncounted : Sent method data [⟨.nonce, some none⟩] (.error (unsentFault method))
  /-- Its gas is not told. -/
  | unmeasured (nonce : Nat) :
      Sent method data [⟨.nonce, some (some nonce)⟩, ⟨.gas data, some none⟩]
        (.error (unsentFault method))
  /-- It is not taken. -/
  | refused (nonce gas : Nat) :
      Sent method data [⟨.nonce, some (some nonce)⟩, ⟨.gas data, some (some gas)⟩,
        ⟨.send data, some none⟩] (.error (unsentFault method))
  /-- It is taken. -/
  | taken (nonce gas : Nat) (hash : Bytes) :
      Sent method data [⟨.nonce, some (some nonce)⟩, ⟨.gas data, some (some gas)⟩,
        ⟨.send data, some (some hash)⟩] (.ok hash)

/-- How waiting for a transaction may end. -/
inductive Confirmed (method : Method) (hash : Bytes) :
    Trace contractNode → Except Fault Unit → Prop
  /-- Nobody says whether it is known. -/
  | unheard : Confirmed method hash [⟨.find hash, some none⟩] (.error (lostFault method hash))
  /-- It is not known. -/
  | unknown :
      Confirmed method hash [⟨.find hash, some (some false)⟩] (.error (droppedFault method hash))
  /-- Nobody tells its receipt. -/
  | untold :
      Confirmed method hash [⟨.find hash, some (some true)⟩, ⟨.receipt hash, some none⟩]
        (.error (lostFault method hash))
  /-- It has no receipt. -/
  | missing :
      Confirmed method hash [⟨.find hash, some (some true)⟩, ⟨.receipt hash, some (some none)⟩]
        (.error (droppedFault method hash))
  /-- Its receipt does not report success. -/
  | reverted {receipt : Receipt} (failed : receipt.status ≠ some 1) :
      Confirmed method hash [⟨.find hash, some (some true)⟩,
        ⟨.receipt hash, some (some (some receipt))⟩] (.error (revertedFault method receipt))
  /-- Its receipt reports success. -/
  | included {receipt : Receipt} (succeeded : receipt.status = some 1) :
      Confirmed method hash [⟨.find hash, some (some true)⟩,
        ⟨.receipt hash, some (some (some receipt))⟩] (.ok ())

/-- How a method that writes may end. -/
inductive Written (method : Method) (data : Bytes) : Trace contractNode → Except Fault Unit → Prop
  | unsent {sending : Trace contractNode} {fault : Fault}
      (sent : Sent method data sending (.error fault)) : Written method data sending (.error fault)
  | sent {sending confirming : Trace contractNode} {hash : Bytes} {ended : Except Fault Unit}
      (sent : Sent method data sending (.ok hash))
      (confirmed : Confirmed method hash confirming ended) :
      Written method data (sending ++ confirming) ended

theorem send_cases {ended : Except Fault Bytes}
    (run : (send method data).run.Runs trace (some ended)) : Sent method data trace ended := by
  obtain ⟨nonce, _, rfl, counted⟩ := runs_ask_bind run
  cases nonce with
  | none =>
    obtain ⟨rfl, rfl⟩ := runs_throw counted
    exact .uncounted
  | some nonce =>
    obtain ⟨gas, _, rfl, measured⟩ := runs_ask_bind counted
    cases gas with
    | none =>
      obtain ⟨rfl, rfl⟩ := runs_throw measured
      exact .unmeasured nonce
    | some gas =>
      obtain ⟨hash, _, rfl, answered⟩ := runs_ask_bind measured
      cases hash with
      | none =>
        obtain ⟨rfl, rfl⟩ := runs_throw answered
        exact .refused nonce gas
      | some hash =>
        obtain ⟨rfl, ⟨⟩⟩ := Program.runs_done answered
        exact .taken nonce gas hash

theorem confirm_cases {ended : Except Fault Unit}
    (run : (confirm method hash).run.Runs trace (some ended)) :
    Confirmed method hash trace ended := by
  obtain ⟨found, _, rfl, known⟩ := runs_ask_bind run
  rcases found with _ | _ | _
  · obtain ⟨rfl, rfl⟩ := runs_throw known
    exact .unheard
  · obtain ⟨rfl, rfl⟩ := runs_throw known
    exact .unknown
  · obtain ⟨reported, _, rfl, settled⟩ := runs_ask_bind known
    rcases reported with _ | _ | receipt
    · obtain ⟨rfl, rfl⟩ := runs_throw settled
      exact .untold
    · obtain ⟨rfl, rfl⟩ := runs_throw settled
      exact .missing
    · by_cases succeeded : receipt.status = some 1
      · simp only [succeeded, if_true] at settled
        obtain ⟨rfl, ⟨⟩⟩ := Program.runs_done settled
        exact .included succeeded
      · simp only [succeeded, if_false] at settled
        obtain ⟨rfl, rfl⟩ := runs_throw settled
        exact .reverted succeeded

theorem write_cases {arguments : Bytes} {ended : Except Fault Unit}
    (run : (write method arguments).run.Runs trace (some ended)) :
    Written method (method.selector ++ arguments) trace ended := by
  rcases runs_bind_ended run with ⟨hash, _, _, rfl, sends, confirms⟩ | ⟨fault, rfl, fails⟩
  · exact .sent (send_cases sends) (confirm_cases confirms)
  · exact .unsent (send_cases fails)

/-- The questions of a transaction that succeeds, with the answers. -/
def succession (data : Bytes) (nonce gas : Nat) (hash : Bytes) (receipt : Receipt) :
    Trace contractNode :=
  [⟨.nonce, some (some nonce)⟩, ⟨.gas data, some (some gas)⟩, ⟨.send data, some (some hash)⟩,
    ⟨.find hash, some (some true)⟩, ⟨.receipt hash, some (some (some receipt))⟩]

theorem Written.of_ok (written : Written method data trace (.ok ())) :
    ∃ nonce gas hash receipt, receipt.status = some 1 ∧
      trace = succession data nonce gas hash receipt := by
  cases written with
  | @sent _ _ hash _ sent confirmed =>
    cases sent with
    | taken nonce gas =>
      cases confirmed with
      | @included receipt succeeded => exact ⟨nonce, gas, hash, receipt, succeeded, rfl⟩

/-- Where each question gets the answer that a transaction needs, a method that writes is done. -/
theorem write_succeeds (arguments : Bytes) (nonce gas : Nat) {receipt : Receipt}
    (succeeded : receipt.status = some 1) :
    (write method arguments).run.Runs
      (succession (method.selector ++ arguments) nonce gas hash receipt) (some (.ok ())) := by
  have settled : (if receipt.status = some 1 then pure ()
      else throw (revertedFault method receipt) : Session Unit).run.Runs [] (some (.ok ())) := by
    rw [if_pos succeeded]
    exact .done _
  refine @Program.Runs.answered contractNode _ .nonce _ _ _ (some nonce) ?_
  refine @Program.Runs.answered contractNode _ (.gas _) _ _ _ (some gas) ?_
  refine @Program.Runs.answered contractNode _ (.send _) _ _ _ (some hash) ?_
  refine @Program.Runs.answered contractNode _ (.find _) _ _ _ (some true) ?_
  exact @Program.Runs.answered contractNode _ (.receipt _) _ _ _ (some (some receipt)) settled

theorem write_asks (method : Method) (arguments : Bytes) :
    (write method arguments).run.Asks (I := contractNode) fun call =>
      ∀ data, call = .send data → data = method.selector ++ arguments := by
  refine asks_bind ⟨fun _ => nofun, fun nonce => ?_⟩ fun hash => ⟨fun _ => nofun, fun found => ?_⟩
  · cases nonce with
    | none => trivial
    | some nonce =>
      refine ⟨fun _ => nofun, fun gas => ?_⟩
      cases gas with
      | none => trivial
      | some gas =>
        refine ⟨?_, fun hash => ?_⟩
        · rintro _ ⟨⟩
          rfl
        · cases hash <;> trivial
  · rcases found with _ | _ | _
    · trivial
    · trivial
    · refine ⟨fun _ => nofun, fun reported => ?_⟩
      rcases reported with _ | _ | receipt
      · trivial
      · trivial
      · show (if receipt.status = some 1 then pure ()
          else throw (revertedFault method receipt) : Session Unit).run.Asks (I := contractNode) _
        split <;> trivial

end HeaderRelay.Ledger
