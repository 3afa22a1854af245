import HeaderRelay.Proof.Settlement
import HeaderRelay.Proof.Store
import HeaderRelay.Proofs.Lists
import HeaderRelay.Proofs.Trace

/-
Results that are delivered in any order, each any number of times. A payload raises the status of
one record at most, to the later of the one that it has and the one that the payload leads to. To
raise twice is to raise once, in either order, so the records in the end depend only on which
payloads came.
-/

set_option autoImplicit false

namespace HeaderRelay

namespace ProofStatus

/-- How late a status is: a failure comes after processing, and a proof after both. -/
def rank : ProofStatus → Nat
  | .inProcessing => 0
  | .error => 1
  | .done => 2

def join (a b : ProofStatus) : ProofStatus := if a.rank ≤ b.rank then b else a

theorem join_right_comm (a b c : ProofStatus) : (a.join b).join c = (a.join c).join b := by
  cases a <;> cases b <;> cases c <;> rfl

theorem join_join_self (a b : ProofStatus) : (a.join b).join b = a.join b := by
  cases a <;> cases b <;> rfl

theorem done_join (a : ProofStatus) : done.join a = done := by
  cases a <;> rfl

theorem join_done (a : ProofStatus) : a.join done = done := by
  cases a <;> rfl

theorem join_error {a : ProofStatus} (pending : a ≠ done) : a.join error = error := by
  cases a with
  | inProcessing => rfl
  | done => exact absurd rfl pending
  | error => rfl

theorem join_eq (a b : ProofStatus) : a.join b = a ∨ a.join b = b := by
  unfold join
  split
  · exact .inr rfl
  · exact .inl rfl

theorem rank_le_join_left (a b : ProofStatus) : a.rank ≤ (a.join b).rank := by
  cases a <;> cases b <;> decide

theorem rank_le_join_right (a b : ProofStatus) : b.rank ≤ (a.join b).rank := by
  cases a <;> cases b <;> decide

/-- The latest of a status and some others. -/
structure Latest (initial : ProofStatus) (others : ProofStatus → Prop) (status : ProofStatus) :
    Prop where
  among : status = initial ∨ others status
  initial_le : initial.rank ≤ status.rank
  others_le : ∀ other, others other → other.rank ≤ status.rank

theorem latest_join (a b : ProofStatus) : Latest a (b = ·) (a.join b) where
  among := (join_eq a b).imp_right Eq.symm
  initial_le := rank_le_join_left a b
  others_le := by
    rintro other rfl
    exact rank_le_join_right a b

theorem Latest.trans {a b c : ProofStatus} {some others : ProofStatus → Prop}
    (first : Latest a some b) (second : Latest b others c) :
    Latest a (fun status => some status ∨ others status) c where
  among := by
    rcases second.among with rfl | other
    · exact first.among.imp_right .inl
    · exact .inr (.inr other)
  initial_le := Nat.le_trans first.initial_le second.initial_le
  others_le := by
    rintro status (early | late)
    · exact Nat.le_trans (first.others_le status early) second.initial_le
    · exact second.others_le status late

end ProofStatus

def ProofRecord.raise (record : ProofRecord) (status : ProofStatus) : ProofRecord :=
  { record with status := record.status.join status }

namespace Proof

namespace Store

/-- Raises the status of the first entry of a hash. -/
def raiseFirst (hash : String) (status : ProofStatus) :
    List (String × ProofRecord) → List (String × ProofRecord)
  | [] => []
  | (key, record) :: rest =>
      if hash = key then (key, record.raise status) :: rest
      else (key, record) :: raiseFirst hash status rest

/-- Raises the status of the record of a hash, if there is one. -/
def raise (store : Store) (hash : String) (status : ProofStatus) : Store :=
  ⟨raiseFirst hash status store.records⟩

variable {hash : String} {status : ProofStatus} {record : ProofRecord} {store : Store}
  {records : List (String × ProofRecord)}

theorem raiseFirst_comm (hash hash' : String) (status status' : ProofStatus)
    (records : List (String × ProofRecord)) :
    raiseFirst hash' status' (raiseFirst hash status records) =
      raiseFirst hash status (raiseFirst hash' status' records) := by
  induction records with
  | nil => rfl
  | cons entry rest ih =>
    obtain ⟨key, record⟩ := entry
    by_cases first : hash = key
    · by_cases second : hash' = key
      · have same : (record.raise status).raise status' = (record.raise status').raise status := by
          simp only [ProofRecord.raise, ProofStatus.join_right_comm record.status status status']
        simp only [raiseFirst, first, second, if_true, same]
      · simp only [raiseFirst, first, second, if_true, if_false]
    · by_cases second : hash' = key
      · simp only [raiseFirst, first, second, if_true, if_false]
      · simp only [raiseFirst, first, second, if_false, ih]

theorem raise_comm (store : Store) (hash hash' : String) (status status' : ProofStatus) :
    (store.raise hash status).raise hash' status' =
      (store.raise hash' status').raise hash status :=
  congrArg Store.mk (raiseFirst_comm hash hash' status status' store.records)

theorem raiseFirst_twice (hash : String) (status : ProofStatus)
    (records : List (String × ProofRecord)) :
    raiseFirst hash status (raiseFirst hash status records) = raiseFirst hash status records := by
  induction records with
  | nil => rfl
  | cons entry rest ih =>
    obtain ⟨key, record⟩ := entry
    by_cases first : hash = key
    · have same : (record.raise status).raise status = record.raise status := by
        simp only [ProofRecord.raise, ProofStatus.join_join_self]
      simp only [raiseFirst, first, if_true, same]
    · simp only [raiseFirst, first, if_false, ih]

theorem raise_twice (store : Store) (hash : String) (status : ProofStatus) :
    (store.raise hash status).raise hash status = store.raise hash status :=
  congrArg Store.mk (raiseFirst_twice hash status store.records)

theorem lookup_raiseFirst (hash other : String) (status : ProofStatus)
    (records : List (String × ProofRecord)) :
    (raiseFirst hash status records).lookup other =
      if other = hash then (records.lookup other).map (·.raise status)
      else records.lookup other := by
  induction records with
  | nil => simp only [raiseFirst, List.lookup_nil, Option.map_none, ite_self]
  | cons entry rest ih =>
    obtain ⟨key, record⟩ := entry
    by_cases first : hash = key
    · subst first
      by_cases same : other = hash
      · subst same
        simp only [raiseFirst, if_true, List.lookup_cons_self, Option.map_some]
      · have differs : (other == hash) = false := beq_false_of_ne same
        simp only [raiseFirst, if_true, List.lookup_cons, differs, same, if_false]
    · by_cases same : other = key
      · subst same
        simp only [raiseFirst, first, Ne.symm first, if_false, List.lookup_cons_self]
      · have differs : (other == key) = false := beq_false_of_ne same
        simp only [raiseFirst, first, if_false, List.lookup_cons, differs, ih]

/-- Raising changes the record of its hash, and no other. -/
theorem get?_raise (store : Store) (hash other : String) (status : ProofStatus) :
    (store.raise hash status).get? other =
      if other = hash then (store.get? other).map (·.raise status) else store.get? other :=
  lookup_raiseFirst hash other status store.records

theorem lookup_replace_of_raise (found : records.lookup hash = some record)
    (later : record.status.join status = status) :
    replace hash { record with status := status } records = raiseFirst hash status records := by
  induction records with
  | nil => cases found
  | cons entry rest ih =>
    obtain ⟨key, old⟩ := entry
    by_cases first : hash = key
    · subst first
      rw [List.lookup_cons_self] at found
      cases found
      simp only [replace, raiseFirst, if_true, ProofRecord.raise, later]
    · have differs : (hash == key) = false := beq_false_of_ne first
      simp only [List.lookup_cons, differs] at found
      simp only [replace, raiseFirst, first, if_false, ih found]

/-- A record that is marked with a later status is raised to it. -/
theorem mark_eq_raise (found : store.get? hash = some record)
    (later : record.status.join status = status) :
    store.mark hash status = .ok ({ record with status := status }, store.raise hash status) := by
  simp only [mark, found, lookup_replace_of_raise found later, raise]

theorem raiseFirst_eq_self
    (idle : ∀ record, records.lookup hash = some record →
      record.status.join status = record.status) :
    raiseFirst hash status records = records := by
  induction records with
  | nil => rfl
  | cons entry rest ih =>
    obtain ⟨key, old⟩ := entry
    by_cases first : hash = key
    · subst first
      have same : old.raise status = old := by
        simp only [ProofRecord.raise, idle old List.lookup_cons_self]
      simp only [raiseFirst, if_true, same]
    · have differs : (hash == key) = false := beq_false_of_ne first
      simp only [List.lookup_cons, differs] at idle
      simp only [raiseFirst, first, if_false, ih idle]

/-- Nothing changes where there is no record, or one that is as late already. -/
theorem raise_eq_self
    (idle : ∀ record, store.get? hash = some record →
      record.status.join status = record.status) :
    store.raise hash status = store :=
  congrArg Store.mk (raiseFirst_eq_self idle)

end Store

/-- The status that a result leads to, by the proofs that are accepted. -/
def reached (accepts : String → String → Bool) : ProvingResult → Option ProofStatus
  | .block ⟨_, journal, proof, .ok⟩ => some (if accepts journal proof then .done else .error)
  | .epoch ⟨_, _, _, .ok⟩ => none
  | .block ⟨_, _, _, .error⟩ | .epoch ⟨_, _, _, .error⟩ => some .error

/-- The hash that a payload is about, and the status that it leads to. -/
def contribution (accepts : String → String → Bool) (payload : Bytes) :
    Option (String × ProofStatus) :=
  (ProvingResult.ofPayload? payload).bind fun result =>
    (reached accepts result).map fun status => (result.hash, status)

/-- The records after a payload. -/
def absorb (accepts : String → String → Bool) (store : Store) (payload : Bytes) : Store :=
  match contribution accepts payload with
  | some (hash, status) => store.raise hash status
  | none => store

/-- Surroundings that keep the records, and accept or reject a proof whenever it is submitted. -/
structure Keeping {σ : Type} (records : σ → Store) (accepts : String → String → Bool)
    (answer : (call : Call) → σ → call.Answer × σ) : Prop where
  fetched : ∀ hash s, (answer (.fetch hash) s).1 = .ok ((records s).get? hash)
  fetch : ∀ hash s, records (answer (.fetch hash) s).2 = records s
  marked : ∀ hash status s record store, (records s).mark hash status = .ok (record, store) →
    (answer (.mark hash status) s).1 = .ok record ∧
      records (answer (.mark hash status) s).2 = store
  submitted : ∀ journal proof s,
    (∃ u, (answer (.submit journal proof) s).1 = .ok u) ↔ accepts journal proof = true
  submit : ∀ journal proof s, records (answer (.submit journal proof) s).2 = records s
  note : ∀ n s, records (answer (.note n) s).2 = records s

/-- Settles payloads one after another, whatever comes of each. -/
def deliver : List Bytes → Relay Unit
  | [] => return ()
  | payload :: rest => do
      let _ ← (settlePayload payload).run
      deliver rest

section Payloads

variable {accepts : String → String → Bool} {store : Store} {record : ProofRecord}
  {hash : String}

theorem absorb_comm (store : Store) (one two : Bytes) :
    absorb accepts (absorb accepts store one) two =
      absorb accepts (absorb accepts store two) one := by
  unfold absorb
  cases contribution accepts one with
  | none => rfl
  | some first =>
    cases contribution accepts two with
    | none => rfl
    | some second => exact Store.raise_comm store first.1 second.1 first.2 second.2

theorem absorb_twice (store : Store) (payload : Bytes) :
    absorb accepts (absorb accepts store payload) payload = absorb accepts store payload := by
  unfold absorb
  cases contribution accepts payload with
  | none => rfl
  | some first => exact Store.raise_twice store first.1 first.2

theorem get?_absorb_none (absent : store.get? hash = none) (payload : Bytes) :
    (absorb accepts store payload).get? hash = none := by
  unfold absorb
  split
  · rw [Store.get?_raise, absent, Option.map_none, ite_self]
  · exact absent

/-- A payload raises the status of a record to the later of its own and the one that the payload
leads to. -/
theorem get?_absorb (accepts : String → String → Bool) (found : store.get? hash = some record)
    (payload : Bytes) :
    ∃ status, (absorb accepts store payload).get? hash = some { record with status := status } ∧
      record.status.Latest (fun other => contribution accepts payload = some (hash, other))
        status := by
  unfold absorb
  cases contribution accepts payload with
  | none =>
    refine ⟨record.status, found, ⟨.inl rfl, Nat.le_refl _, ?_⟩⟩
    exact fun other impossible => nomatch impossible
  | some raised =>
    obtain ⟨key, status⟩ := raised
    dsimp only
    rw [Store.get?_raise]
    by_cases same : hash = key
    · subst same
      rw [if_pos rfl, found]
      refine ⟨record.status.join status, rfl, ?_⟩
      simpa only [Option.some.injEq, Prod.mk.injEq, true_and] using
        ProofStatus.latest_join record.status status
    · rw [if_neg same]
      refine ⟨record.status, found, ⟨.inl rfl, Nat.le_refl _, ?_⟩⟩
      rintro other ⟨⟩
      exact absurd rfl same

theorem get?_foldl_absorb_none (absent : store.get? hash = none) (payloads : List Bytes) :
    (payloads.foldl (absorb accepts) store).get? hash = none := by
  induction payloads generalizing store with
  | nil => exact absent
  | cons payload rest ih => exact ih (get?_absorb_none absent payload)

/-- Payloads raise the status of a record to the latest of its own and those that they lead to. -/
theorem get?_foldl_absorb (found : store.get? hash = some record) (payloads : List Bytes) :
    ∃ status, (payloads.foldl (absorb accepts) store).get? hash =
        some { record with status := status } ∧
      record.status.Latest
        (fun other => ∃ payload ∈ payloads, contribution accepts payload = some (hash, other))
        status := by
  induction payloads generalizing store record with
  | nil =>
    refine ⟨record.status, found, ⟨.inl rfl, Nat.le_refl _, ?_⟩⟩
    rintro other ⟨payload, impossible, -⟩
    cases impossible
  | cons payload rest ih =>
    obtain ⟨next, found', first⟩ := get?_absorb accepts found payload
    obtain ⟨status, found'', second⟩ := ih found'
    refine ⟨status, found'', ?_⟩
    have both := first.trans second
    simpa only [List.exists_mem_cons_iff] using both

end Payloads

section Runs

variable {σ : Type} {records : σ → Store} {accepts : String → String → Bool}
  {answer : (call : Call) → σ → call.Answer × σ} {s : σ}

/-- A proof that is submitted leads to the status that it is accepted with. -/
theorem submission_run (keeping : Keeping records accepts answer) (result : BlockResult) (s : σ) :
    ∃ t, (submission result).run.run answer s =
        (.ok (if accepts result.journal result.proof then .done else .error), t) ∧
      records t = records s := by
  have submitted := keeping.submitted result.journal result.proof s
  have kept := keeping.submit result.journal result.proof s
  have asked := Action.run_outcome answer s (Action.submit result.journal result.proof)
  unfold submission
  rw [Action.run_bind_ok asked]
  cases reply : ((Action.submit result.journal result.proof).run.run answer s).1 with
  | ok u =>
    have accepted : accepts result.journal result.proof = true := submitted.mp ⟨u, reply⟩
    dsimp only
    rw [Action.run_bind_ok (Action.run_note answer _ _), accepted]
    refine ⟨_, rfl, ?_⟩
    exact (keeping.note _ _).trans kept
  | error fault =>
    have rejected : ¬ accepts result.journal result.proof = true := by
      intro accepted
      obtain ⟨u, same⟩ := submitted.mpr accepted
      cases reply.symm.trans same
    dsimp only
    rw [Action.run_bind_ok (Action.run_note answer _ _), if_neg rejected]
    refine ⟨_, rfl, ?_⟩
    exact (keeping.note _ _).trans kept

theorem verdict_run (keeping : Keeping records accepts answer) (result : ProvingResult) (s : σ) :
    ∃ t, (verdict result).run.run answer s = (.ok (reached accepts result), t) ∧
      records t = records s := by
  rcases result with ⟨block, journal, proof, status⟩ | ⟨block, previous, height, status⟩ <;>
    cases status
  · obtain ⟨t, ran, kept⟩ := submission_run keeping ⟨block, journal, proof, .ok⟩ s
    refine ⟨t, ?_, kept⟩
    exact Action.run_bind_ok ran
  · exact ⟨s, rfl, rfl⟩
  · exact ⟨s, rfl, rfl⟩
  · exact ⟨s, rfl, rfl⟩

/-- A status that a result leads to is later than that of an open record. -/
theorem join_reached {result : ProvingResult} {current status : ProofStatus}
    (pending : current ≠ .done) (reaches : reached accepts result = some status) :
    current.join status = status := by
  have final : status = .done ∨ status = .error := by
    rcases result with ⟨block, journal, proof, _ | _⟩ | ⟨block, previous, height, _ | _⟩
    · obtain rfl := Option.some.inj reaches
      cases accepts journal proof
      · exact .inr rfl
      · exact .inl rfl
    · exact .inr (Option.some.inj reaches).symm
    · cases reaches
    · exact .inr (Option.some.inj reaches).symm
  rcases final with rfl | rfl
  · exact ProofStatus.join_done current
  · exact ProofStatus.join_error pending

/-- Settling a result raises the record of its hash to the status that it leads to. -/
theorem settle_run (keeping : Keeping records accepts answer) (result : ProvingResult) (s : σ) :
    records ((settle result).run.run answer s).2 =
      match reached accepts result with
      | some status => (records s).raise result.hash status
      | none => records s := by
  have noted := keeping.note (.resultReceived result.status) s
  let t := (answer (.note (.resultReceived result.status)) s).2
  let u := (answer (.fetch result.hash) t).2
  have fetched : (Action.fetch result.hash).run.run answer t =
      (.ok ((records s).get? result.hash), u) := by
    rw [← noted, ← keeping.fetched result.hash t]
    rfl
  have kept : records u = records s := (keeping.fetch result.hash t).trans noted
  -- Where nothing is marked, raising changes nothing either.
  have skipped (idle : ∀ record status, (records s).get? result.hash = some record →
      reached accepts result = some status → record.status.join status = record.status) :
      records u = match reached accepts result with
        | some status => (records s).raise result.hash status
        | none => records s := by
    cases reaches : reached accepts result with
    | none => exact kept
    | some status =>
      rw [kept]
      exact (Store.raise_eq_self fun record found => idle record status found reaches).symm
  unfold settle
  rw [Action.run_bind_ok (Action.run_note answer s _), Action.run_bind_ok fetched]
  cases found : (records s).get? result.hash with
  | none =>
    apply skipped
    intro record status other
    cases found.symm.trans other
  | some record =>
    dsimp only
    by_cases finished : record.status = .done
    · rw [if_pos finished]
      apply skipped
      intro other status same _
      obtain rfl := Option.some.inj (found.symm.trans same)
      rw [finished, ProofStatus.done_join]
    · rw [if_neg finished]
      obtain ⟨v, ran, kept'⟩ := verdict_run keeping result u
      have held : records v = records s := kept'.trans kept
      rw [Action.run_bind_ok ran]
      cases reaches : reached accepts result with
      | none => exact held
      | some status =>
        have marks := Store.mark_eq_raise found (join_reached finished reaches)
        rw [← held] at marks
        obtain ⟨marked, stored⟩ := keeping.marked _ _ _ _ _ marks
        have ran' : (Action.mark result.hash status).run.run answer v =
            (.ok { record with status := status }, (answer (.mark result.hash status) v).2) := by
          rw [← marked]
          rfl
        dsimp only
        rw [Action.run_bind_ok ran', Action.run_bind_ok (Action.run_note answer _ _), ← held]
        exact (keeping.note _ _).trans stored

theorem settlePayload_run (keeping : Keeping records accepts answer) (payload : Bytes) (s : σ) :
    records ((settlePayload payload).run.run answer s).2 =
      absorb accepts (records s) payload := by
  unfold settlePayload absorb contribution
  cases ProvingResult.ofPayload? payload with
  | none => rfl
  | some result =>
    rw [settle_run keeping result s, Option.bind_some]
    cases reached accepts result with
    | none => rfl
    | some status => rfl

theorem deliver_run (keeping : Keeping records accepts answer) (payloads : List Bytes) (s : σ) :
    records ((deliver payloads).run answer s).2 =
      payloads.foldl (absorb accepts) (records s) := by
  induction payloads generalizing s with
  | nil => rfl
  | cons payload rest ih =>
    have both := Program.run_bind (I := relaying) answer (settlePayload payload).run
      (fun _ => deliver rest) s
    change records (((settlePayload payload).run.bind fun _ => deliver rest).run answer s).2 = _
    rw [both, ih, settlePayload_run keeping payload s, List.foldl_cons]

/-- What becomes of the records does not depend on the order in which results are delivered, nor on
how often each is: only the status of a record changes, to the latest of its own and those that the
results for its hash lead to. -/
theorem deliver_converges (keeping : Keeping records accepts answer) {first second : List Bytes}
    (same : ∀ payload, payload ∈ first ↔ payload ∈ second) {s t : σ}
    (initial : records s = records t) :
    let final := records ((deliver first).run answer s).2
    final = records ((deliver second).run answer t).2 ∧
    (∀ hash, (records s).get? hash = none → final.get? hash = none) ∧
    ∀ hash record, (records s).get? hash = some record →
      ∃ status, final.get? hash = some { record with status := status } ∧
        record.status.Latest
          (fun other => ∃ payload ∈ first, contribution accepts payload = some (hash, other))
          status := by
  intro final
  have settled : final = first.foldl (absorb accepts) (records s) := deliver_run keeping first s
  have commutes : RightCommutative (absorb accepts) := ⟨absorb_comm⟩
  refine ⟨?_, fun hash absent => ?_, fun hash record found => ?_⟩
  · rw [settled, deliver_run keeping second t, ← initial]
    exact foldl_eq_of_mem_iff absorb_twice same (records s)
  · rw [settled]
    exact get?_foldl_absorb_none absent first
  · rw [settled]
    exact get?_foldl_absorb found first

end Runs

/-- Surroundings that are a store, and accept some proofs. -/
def clerk (accepts : String → String → Bool) : (call : Call) → Store → call.Answer × Store
  | .fetch hash, store => (.ok (store.get? hash), store)
  | .mark hash status, store =>
      match store.mark hash status with
      | .ok (record, marked) => (.ok record, marked)
      | .error fault => (.error fault, store)
  | .submit journal proof, store =>
      (if accepts journal proof then .ok () else .error ⟨.ledger, "*"⟩, store)
  | .clock, store => ((0 : Nat), store)
  | .wait _, store | .note _, store => ((), store)
  | .block _ _, store | .head _, store | .checkpoint, store | .epochHashes _, store
  | .commit _ _ _, store | .isProofed _, store | .prove _, store | .publish _, store
  | .save _, store => (.error ⟨.internal, "*"⟩, store)

theorem clerk_keeping (accepts : String → String → Bool) : Keeping id accepts (clerk accepts) where
  fetched _ _ := rfl
  fetch _ _ := rfl
  marked hash status store record marked marks := by
    rw [id_eq] at marks
    have ran : clerk accepts (.mark hash status) store = (.ok record, marked) := by
      simp only [clerk, marks]
    rw [ran]
    exact ⟨rfl, rfl⟩
  submitted journal proof store := by
    cases accepted : accepts journal proof with
    | true =>
      refine ⟨fun _ => rfl, fun _ => ⟨(), ?_⟩⟩
      simp only [clerk, accepted]
      rfl
    | false =>
      refine ⟨?_, fun impossible => nomatch impossible⟩
      rintro ⟨u, impossible⟩
      simp only [clerk, accepted] at impossible
      cases impossible
  submit _ _ _ := rfl
  note _ _ := rfl

/-- A result for a block, well or not. -/
def resultPayload (hash status : String) : Bytes :=
  Utf8.encode ("\x7b\"currentBlockHash\":\"" ++ hash ++
    "\",\"journal\":\"0x01\",\"proof\":\"0x02\",\"status\":\"" ++ status ++ "\"\x7d")

/-- A block that is reported as failed and as proved is done, whichever came first. -/
theorem deliver_converges_failedThenProved :
    let record : ProofRecord := ⟨"H1", 1, "G", 0, .inProcessing, 0⟩
    let final (payloads : List Bytes) : Store :=
      ((deliver payloads).run (clerk fun _ _ => true) ⟨[("H1", record)]⟩).2
    let failed := resultPayload "H1" "ERROR"
    let proved := resultPayload "H1" "OK"
    final [failed, proved] = final [proved, failed, proved] ∧
      (final [failed, proved]).get? "H1" = some { record with status := .done } := by
  intro record final failed proved
  have same (payload : Bytes) :
      payload ∈ [failed, proved] ↔ payload ∈ [proved, failed, proved] := by
    simp only [List.mem_cons, List.not_mem_nil, or_false]
    tauto
  obtain ⟨converges, -, raised⟩ := deliver_converges (clerk_keeping fun _ _ => true) same
    (show id (⟨[("H1", record)]⟩ : Store) = id ⟨[("H1", record)]⟩ from rfl)
  obtain ⟨status, found, latest⟩ := raised "H1" record rfl
  have leads : contribution (fun _ _ => true) proved = some ("H1", .done) := by
    decide +kernel
  have atLeast := latest.others_le .done
    ⟨proved, List.mem_cons_of_mem _ List.mem_cons_self, leads⟩
  have done : status = .done := by
    cases status with
    | inProcessing => cases atLeast
    | error => cases Nat.le_of_succ_le_succ atLeast
    | done => rfl
  rw [done] at found
  exact ⟨converges, found⟩

end Proof

end HeaderRelay
