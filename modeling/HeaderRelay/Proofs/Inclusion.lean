import HeaderRelay.Proofs.Transaction
import Mathlib.Data.List.Basic

set_option autoImplicit false

namespace HeaderRelay.Ledger

variable {method : Method} {data hash bytes : Bytes} {trace : Trace contractNode}
  {ended : Except Fault Unit} {fault : Fault}

/-- The arguments of a call that saves hashes for a height, if they are hashes. -/
def saveArguments (previous current : String) (height : Nat) : Except Fault Bytes := do
  let previous ← hashBytes previous
  let current ← hashBytes current
  return previous ++ current ++ Abi.word height

/-- The arguments of a call that submits a proof, if it is made of hexadecimal digits. -/
def proofArguments (journal proof : String) : Except Fault Bytes := do
  let journal ← payloadBytes "journal" journal
  let proof ← payloadBytes "proof" proof
  return Abi.twoStrings journal proof

/-- Calls a method that writes, with arguments that may be missing. -/
def writing (method : Method) (arguments : Except Fault Bytes) : Session Unit :=
  ExceptT.mk (.done arguments) >>= write method

theorem commit_eq (previous current : String) (height : Nat) :
    commit previous current height = writing .saveEpochHashes
      (saveArguments previous current height) := by
  unfold commit writing saveArguments
  cases hashBytes previous with
  | error fault => rfl
  | ok first => cases hashBytes current <;> rfl

theorem submit_eq (journal proof : String) :
    submit journal proof = writing .verifyProof (proofArguments journal proof) := by
  unfold submit writing proofArguments
  cases payloadBytes "journal" journal with
  | error fault => rfl
  | ok first => cases payloadBytes "proof" proof <;> rfl

theorem kind_of_hashBytes {text : String} (failed : hashBytes text = .error fault) :
    fault.kind = .parse := by
  unfold hashBytes at failed
  split at failed
  · cases failed
    rfl
  · split at failed
    · cases failed
    · cases failed
      rfl

theorem kind_of_payloadBytes {field text : String}
    (failed : payloadBytes field text = .error fault) : fault.kind = .parse := by
  unfold payloadBytes at failed
  split at failed
  · cases failed
  · cases failed
    rfl

theorem kind_of_saveArguments {previous current : String} {height : Nat}
    (failed : saveArguments previous current height = .error fault) : fault.kind = .parse := by
  rcases error_of_bind failed with first | ⟨_, -, further⟩
  · exact kind_of_hashBytes first
  · rcases error_of_bind further with second | ⟨_, -, ⟨⟩⟩
    exact kind_of_hashBytes second

theorem kind_of_proofArguments {journal proof : String}
    (failed : proofArguments journal proof = .error fault) : fault.kind = .parse := by
  rcases error_of_bind failed with first | ⟨_, -, further⟩
  · exact kind_of_payloadBytes first
  · rcases error_of_bind further with second | ⟨_, -, ⟨⟩⟩
    exact kind_of_payloadBytes second

/-- Whether a request follows up a transaction that was sent. -/
def NodeCall.follows : NodeCall → Bool
  | .find _ => true
  | .receipt _ => true
  | _ => false

theorem Sent.not_follows {result : Except Fault Bytes} (sent : Sent method data trace result) :
    ∀ event ∈ trace, event.call.follows = false := by
  cases sent <;> simp [NodeCall.follows]

theorem Confirmed.follows (confirmed : Confirmed method hash trace ended) :
    ∀ event ∈ trace, event.call.follows = true := by
  cases confirmed <;> simp [NodeCall.follows]

/-- A transaction that is not sent is a fault of the contract. -/
theorem Sent.kind (sent : Sent method data trace (.error fault)) : fault.kind = .ledger := by
  cases sent <;> rfl

/-- A transaction that is not confirmed is a fault of the contract. -/
theorem Confirmed.kind (confirmed : Confirmed method hash trace (.error fault)) :
    fault.kind = .ledger := by
  cases confirmed <;> rfl

theorem Written.kind (written : Written method data trace (.error fault)) :
    fault.kind = .ledger := by
  cases written with
  | unsent sent => exact sent.kind
  | sent sent confirmed => exact confirmed.kind

/-- A receipt has the last word. -/
theorem Confirmed.of_receipt {other : Bytes} {reported : Option Receipt}
    (confirmed : Confirmed method hash trace ended)
    (told : ⟨.receipt other, some (some reported)⟩ ∈ trace) :
    ended = .ok () ↔ ∃ receipt, reported = some receipt ∧ receipt.status = some 1 := by
  cases confirmed with
  | unheard => cases List.mem_singleton.mp told
  | unknown => cases List.mem_singleton.mp told
  | untold => rcases List.mem_pair.mp told with same | same <;> cases same
  | missing =>
    rcases List.mem_pair.mp told with same | same <;> cases same
    simp
  | reverted failed =>
    rcases List.mem_pair.mp told with same | same <;> cases same
    simpa using failed
  | included succeeded =>
    rcases List.mem_pair.mp told with same | same <;> cases same
    simpa using succeeded

theorem Written.of_receipt {other : Bytes} {reported : Option Receipt}
    (written : Written method data trace ended)
    (told : ⟨.receipt other, some (some reported)⟩ ∈ trace) :
    ended = .ok () ↔ ∃ receipt, reported = some receipt ∧ receipt.status = some 1 := by
  cases written with
  | unsent sent => cases sent.not_follows _ told
  | sent sent confirmed =>
    rcases List.mem_append.mp told with early | late
    · cases sent.not_follows _ early
    · exact confirmed.of_receipt late

/-- A transaction was sent and found, and its receipt reports success. -/
def Included (data : Bytes) (trace : Trace contractNode) : Prop :=
  ∃ hash receipt, ⟨.send data, some (some hash)⟩ ∈ trace ∧ ⟨.find hash, some (some true)⟩ ∈ trace ∧
    ⟨.receipt hash, some (some (some receipt))⟩ ∈ trace ∧ receipt.status = some 1

/-- A write is done exactly if its transaction is included and succeeded. -/
theorem Written.included_iff (written : Written method data trace ended) :
    ended = .ok () ↔ Included data trace := by
  constructor
  · rintro rfl
    obtain ⟨nonce, gas, hash, receipt, succeeded, rfl⟩ := written.of_ok
    exact ⟨hash, receipt, by simp [succession], by simp [succession], by simp [succession],
      succeeded⟩
  · rintro ⟨hash, receipt, -, -, told, succeeded⟩
    exact (written.of_receipt told).mpr ⟨receipt, rfl, succeeded⟩

section Node

variable {σ : Type} {answer : (call : contractNode.Call) → σ → contractNode.Reply call × σ} {s : σ}

/-- A node answers all that a transaction asks of it, one question after the other: it tells the
nonce and the gas, takes the transaction, finds it, and shows a receipt that reports success. -/
def Includes (answer : (call : contractNode.Call) → σ → contractNode.Reply call × σ)
    (data : Bytes) (s : σ) : Prop :=
  ∃ nonce gas hash receipt, receipt.status = some 1 ∧
    (succession data nonce gas hash receipt).AnsweredBy answer s

/-- A write is done exactly if the node answers all that its transaction asks. -/
theorem write_ok_iff (answer : (call : contractNode.Call) → σ → contractNode.Reply call × σ)
    (s : σ) (method : Method) (arguments : Bytes) :
    ((write method arguments).run.run answer s).1 = .ok () ↔
      Includes answer (method.selector ++ arguments) s := by
  constructor
  · intro done
    have run := Program.runs_transcript answer (write method arguments).run s
    have answered := Program.answeredBy_transcript answer (write method arguments).run s
    rw [done] at run
    obtain ⟨nonce, gas, hash, receipt, succeeded, same⟩ := (write_cases run).of_ok
    rw [same] at answered
    exact ⟨nonce, gas, hash, receipt, succeeded, answered⟩
  · rintro ⟨nonce, gas, hash, receipt, succeeded, answered⟩
    exact (write_succeeds arguments nonce gas succeeded).run_eq answered

theorem writing_ok_iff (answer : (call : contractNode.Call) → σ → contractNode.Reply call × σ)
    (s : σ) (method : Method) (arguments : Except Fault Bytes) :
    ((writing method arguments).run.run answer s).1 = .ok () ↔
      ∃ bytes, arguments = .ok bytes ∧ Includes answer (method.selector ++ bytes) s := by
  cases arguments with
  | error fault =>
    constructor
    · rintro ⟨⟩
    · rintro ⟨bytes, ⟨⟩, -⟩
  | ok bytes =>
    have done : ((writing method (.ok bytes)).run.run answer s).1 = .ok () ↔
        Includes answer (method.selector ++ bytes) s := write_ok_iff answer s method bytes
    simp [done]

end Node

/-- A transaction is sent after its nonce and its gas are told. -/
theorem Sent.of_sends {result : Except Fault Bytes} {posted : Bytes} {reply : Option (Option Bytes)}
    (sent : Sent method data trace result) (sends : ⟨.send posted, reply⟩ ∈ trace) :
    posted = data ∧ ∃ nonce gas, trace = [⟨.nonce, some (some nonce)⟩,
      ⟨.gas data, some (some gas)⟩, ⟨.send data, reply⟩] := by
  cases sent with
  | uncounted => cases List.mem_singleton.mp sends
  | unmeasured nonce => rcases List.mem_pair.mp sends with same | same <;> cases same
  | refused nonce gas =>
    have later := List.mem_of_ne_of_mem (by rintro ⟨⟩) sends
    rcases List.mem_pair.mp later with same | same <;> cases same
    exact ⟨rfl, nonce, gas, rfl⟩
  | taken nonce gas =>
    have later := List.mem_of_ne_of_mem (by rintro ⟨⟩) sends
    rcases List.mem_pair.mp later with same | same <;> cases same
    exact ⟨rfl, nonce, gas, rfl⟩

/-- At most one transaction is sent, after its nonce and its gas are told. -/
theorem Written.of_sends {posted : Bytes} {reply : Option (Option Bytes)}
    (written : Written method data trace ended) (sends : ⟨.send posted, reply⟩ ∈ trace) :
    posted = data ∧ ∃ nonce gas after, trace = ⟨.nonce, some (some nonce)⟩ ::
      ⟨.gas data, some (some gas)⟩ :: ⟨.send data, reply⟩ :: after ∧
      ∀ event ∈ after, event.call.follows = true := by
  cases written with
  | unsent sent =>
    obtain ⟨rfl, nonce, gas, rfl⟩ := sent.of_sends sends
    exact ⟨rfl, nonce, gas, [], rfl, by simp⟩
  | sent sent confirmed =>
    rcases List.mem_append.mp sends with early | late
    · obtain ⟨rfl, nonce, gas, rfl⟩ := sent.of_sends early
      exact ⟨rfl, nonce, gas, _, rfl, confirmed.follows⟩
    · cases confirmed.follows _ late

theorem writing_cases {arguments : Except Fault Bytes}
    (run : (writing method arguments).run.Runs trace (some ended)) :
    (∃ fault, arguments = .error fault ∧ trace = [] ∧ ended = .error fault) ∨
    ∃ bytes, arguments = .ok bytes ∧ Written method (method.selector ++ bytes) trace ended := by
  rcases runs_bind_ended run with ⟨bytes, _, _, rfl, known, writes⟩ | ⟨fault, rfl, known⟩
  · obtain ⟨rfl, rfl⟩ := runs_known known
    exact .inr ⟨bytes, rfl, write_cases writes⟩
  · obtain ⟨rfl, rfl⟩ := runs_known known
    exact .inl ⟨fault, rfl, rfl, rfl⟩

/-- What a method that writes asks of the node, and how it ends. -/
structure Truthful (method : Method) (arguments : Except Fault Bytes)
    (trace : Trace contractNode) (ended : Except Fault Unit) : Prop where
  /-- It is done exactly if its transaction is included and succeeded. -/
  done_iff : ended = .ok () ↔
    ∃ bytes, arguments = .ok bytes ∧ Included (method.selector ++ bytes) trace
  /-- With arguments that can be converted the node is asked one question after the other, until an
  answer is missing or a receipt has the last word. -/
  written : ∀ bytes, arguments = .ok bytes → Written method (method.selector ++ bytes) trace ended
  /-- Nothing is asked if an argument cannot be converted. -/
  unconverted : ∀ fault, arguments = .error fault →
    fault.kind = .parse ∧ ended = .error fault ∧ trace = []
  /-- Any other failure is a fault of the contract. -/
  failed : ∀ bytes fault, arguments = .ok bytes → ended = .error fault → fault.kind = .ledger
  /-- A receipt that is missing, has no status or has a status other than one is a failure. -/
  receipt : ∀ (hash : Bytes) (reported : Option Receipt),
    ⟨.receipt hash, some (some reported)⟩ ∈ trace →
      (∀ receipt, reported = some receipt → receipt.status ≠ some 1) →
        ∃ fault, ended = .error fault ∧ fault.kind = .ledger
  /-- One transaction is sent at most, after its nonce and its gas are told. -/
  sent : ∀ (data : Bytes) (reply : Option (Option Bytes)), ⟨.send data, reply⟩ ∈ trace →
    ∃ bytes nonce gas after, arguments = .ok bytes ∧ data = method.selector ++ bytes ∧
      trace = ⟨.nonce, some (some nonce)⟩ :: ⟨.gas data, some (some gas)⟩ ::
        ⟨.send data, reply⟩ :: after ∧ ∀ event ∈ after, event.call.follows = true

theorem Written.truthful {arguments : Except Fault Bytes} (converted : arguments = .ok bytes)
    (written : Written method (method.selector ++ bytes) trace ended) :
    Truthful method arguments trace ended where
  done_iff := by
    rw [written.included_iff]
    constructor
    · intro included
      exact ⟨bytes, converted, included⟩
    · rintro ⟨other, same, included⟩
      cases converted.symm.trans same
      exact included
  written := by
    intro other same
    cases converted.symm.trans same
    exact written
  unconverted := by
    intro fault failed
    cases converted.symm.trans failed
  failed := by
    rintro _ fault - rfl
    exact written.kind
  receipt := by
    intro hash reported told other
    have last := written.of_receipt told
    cases ended with
    | ok _ =>
      obtain ⟨receipt, same, succeeded⟩ := last.mp rfl
      exact absurd succeeded (other receipt same)
    | error fault => exact ⟨fault, rfl, written.kind⟩
  sent := by
    intro data reply sends
    obtain ⟨rfl, nonce, gas, after, same, follows⟩ := written.of_sends sends
    exact ⟨bytes, nonce, gas, after, converted, rfl, same, follows⟩

theorem truthful_of_error {arguments : Except Fault Bytes} (failed : arguments = .error fault)
    (parsed : fault.kind = .parse) : Truthful method arguments [] (.error fault) where
  done_iff := by
    constructor
    · rintro ⟨⟩
    · rintro ⟨bytes, converted, -⟩
      cases failed.symm.trans converted
  written := by
    intro bytes converted
    cases failed.symm.trans converted
  unconverted := by
    intro other same
    cases failed.symm.trans same
    exact ⟨parsed, rfl, rfl⟩
  failed := by
    intro bytes other converted
    cases failed.symm.trans converted
  receipt := by
    intro hash reported told
    cases told
  sent := by
    intro data reply sends
    cases sends

theorem truthful_of_runs {arguments : Except Fault Bytes}
    (parsed : ∀ fault, arguments = .error fault → fault.kind = .parse)
    (run : (writing method arguments).run.Runs trace (some ended)) :
    Truthful method arguments trace ended := by
  rcases writing_cases run with ⟨fault, failed, rfl, rfl⟩ | ⟨bytes, converted, written⟩
  · exact truthful_of_error failed (parsed fault failed)
  · exact written.truthful converted

/-- What a session that writes comes to with a node. It asks and ends as told, and it is done
exactly if its arguments can be converted and the node answers all that its transaction asks. -/
structure Reports {σ : Type} (answer : (call : contractNode.Call) → σ → contractNode.Reply call × σ)
    (s : σ) (method : Method) (arguments : Except Fault Bytes) (session : Session Unit) : Prop where
  truthful : Truthful method arguments (session.run.transcript answer s)
    (session.run.run answer s).1
  ok_iff : (session.run.run answer s).1 = .ok () ↔
    ∃ bytes, arguments = .ok bytes ∧ Includes answer (method.selector ++ bytes) s

theorem reports_writing {σ : Type}
    (answer : (call : contractNode.Call) → σ → contractNode.Reply call × σ) (s : σ)
    {arguments : Except Fault Bytes}
    (parsed : ∀ fault, arguments = .error fault → fault.kind = .parse) :
    Reports answer s method arguments (writing method arguments) where
  truthful := truthful_of_runs parsed
    (Program.runs_transcript answer (writing method arguments).run s)
  ok_iff := writing_ok_iff answer s method arguments

/-- Whatever the node answers, a write reports success exactly if its arguments can be converted and
the node takes its transaction, includes it, and reports its success. -/
theorem writes_report_inclusion {σ : Type}
    (answer : (call : contractNode.Call) → σ → contractNode.Reply call × σ) (s : σ) :
    (∀ (previous current : String) (height : Nat),
      Reports answer s .saveEpochHashes (saveArguments previous current height)
        (commit previous current height)) ∧
    ∀ journal proof : String,
      Reports answer s .verifyProof (proofArguments journal proof) (submit journal proof) := by
  constructor
  · intro previous current height
    rw [commit_eq]
    exact reports_writing answer s fun _ => kind_of_saveArguments
  · intro journal proof
    rw [submit_eq]
    exact reports_writing answer s fun _ => kind_of_proofArguments

def willing : (call : contractNode.Call) → Unit → contractNode.Reply call × Unit
  | .chainId, _ => (some 1, ())
  | .call _, _ => (none, ())
  | .nonce, _ => (some 7, ())
  | .gas _, _ => (some 21000, ())
  | .send data, _ => (some (data.take 4), ())
  | .find _, _ => (some true, ())
  | .receipt hash, _ => (some (some ⟨hash, some 1, some 9⟩), ())

theorem willing_includes (data : Bytes) : Includes willing data () :=
  ⟨7, 21000, data.take 4, ⟨data.take 4, some 1, some 9⟩, rfl, rfl, rfl, rfl, rfl, rfl, trivial⟩

theorem Reports.willing_iff {arguments : Except Fault Bytes} {session : Session Unit}
    (reports : Reports willing () method arguments session) :
    (session.run.run willing ()).1 = .ok () ↔ arguments.isOk = true := by
  rw [reports.ok_iff]
  cases arguments with
  | error fault => simp [Except.isOk, Except.toBool]
  | ok bytes => simp [Except.isOk, Except.toBool, willing_includes]

/-- With such a node a commit and a proof succeed, and a proof with a foreign digit fails. -/
theorem writes_report_inclusion_willing :
    ((commit "11111111111111111111111111111112" "11111111111111111111111111111113" 7).run.run
      willing ()).1 = .ok () ∧
    ((submit "0x0102" "ff").run.run willing ()).1 = .ok () ∧
    ((submit "0x0102" "fg").run.run willing ()).1 ≠ .ok () := by
  obtain ⟨commits, submits⟩ := writes_report_inclusion willing ()
  refine ⟨(commits _ _ 7).willing_iff.mpr ?_, (submits _ _).willing_iff.mpr ?_, fun done => ?_⟩
  · decide +kernel
  · decide +kernel
  · have converts := (submits _ _).willing_iff.mp done
    have foreign : (proofArguments "0x0102" "fg").isOk = false := by decide +kernel
    rw [foreign] at converts
    cases converts

end HeaderRelay.Ledger
