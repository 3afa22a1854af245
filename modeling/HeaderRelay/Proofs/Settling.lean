import HeaderRelay.Proof.Settlement
import HeaderRelay.Proofs.Bookkeeping
import HeaderRelay.Proofs.Lookup

set_option autoImplicit false

namespace HeaderRelay.Proof

def Settlement.ofStatus (status : ProofStatus) : Settlement :=
  if status = .done then .done else .error

/-- How a result is judged, and which status it leads to, if any. -/
inductive Judged : ProvingResult → Trace relaying → Option ProofStatus → Prop
  /-- The proof is submitted and accepted. -/
  | accepted {result : BlockResult} (proved : result.status = .ok) :
      Judged (.block result) [⟨.submit result.journal result.proof, some (.ok ())⟩,
        ⟨.note (.submitted true), some ()⟩] (some .done)
  /-- The proof is submitted and not accepted. -/
  | rejected {result : BlockResult} (proved : result.status = .ok) (fault : Fault) :
      Judged (.block result) [⟨.submit result.journal result.proof, some (.error fault)⟩,
        ⟨.note (.submitted false), some ()⟩] (some .error)
  /-- The proof of an epoch is left to the epoch loop. -/
  | left {result : EpochResult} (proved : result.status = .ok) : Judged (.epoch result) [] none
  /-- A failure is reported. -/
  | failed {result : ProvingResult} (failed : result.status = .error) :
      Judged result [] (some .error)

/-- The first two questions of a settlement: the result is counted, and its record looked up. -/
def opening (result : ProvingResult) (reply : Except Fault (Option ProofRecord)) :
    Trace relaying :=
  [⟨.note (.resultReceived result.status), some ()⟩, ⟨.fetch result.hash, some reply⟩]

def pending? (found : Option ProofRecord) : Option ProofRecord :=
  found.filter fun record => record.status ≠ .done

/-- All that the settlement of a result can do. -/
inductive Settled (result : ProvingResult) : Trace relaying → Except Fault Settlement → Prop
  /-- Its record cannot be looked up. -/
  | unread (fault : Fault) : Settled result (opening result (.error fault)) (.error fault)
  /-- It has no record, or one that is done. -/
  | idle {found : Option ProofRecord} (idle : pending? found = none) :
      Settled result (opening result (.ok found)) (.ok .skipped)
  /-- It leads to no status. -/
  | left {found : Option ProofRecord} {record : ProofRecord} {judging : Trace relaying}
      (pending : pending? found = some record) (judged : Judged result judging none) :
      Settled result (opening result (.ok found) ++ judging) (.ok .skipped)
  /-- Its record cannot be marked. -/
  | unmarked {found : Option ProofRecord} {record : ProofRecord} {judging : Trace relaying}
      {status : ProofStatus} (pending : pending? found = some record)
      (judged : Judged result judging (some status)) (fault : Fault) :
      Settled result (opening result (.ok found) ++
        (judging ++ [⟨.mark result.hash status, some (.error fault)⟩])) (.error fault)
  /-- Its record is marked. -/
  | marked {found : Option ProofRecord} {record : ProofRecord} {judging : Trace relaying}
      {status : ProofStatus} (pending : pending? found = some record)
      (judged : Judged result judging (some status)) (marked : ProofRecord) :
      Settled result (opening result (.ok found) ++
        (judging ++ [⟨.mark result.hash status, some (.ok marked)⟩,
          ⟨.note (.moved status), some ()⟩])) (.ok (.ofStatus status))

variable {result : ProvingResult} {trace judging : Trace relaying} {store : Store}
  {reached : Option ProofStatus} {ended : Except Fault Settlement} {record : ProofRecord}
  {found : Option ProofRecord}

theorem pending?_eq_some :
    pending? found = some record ↔ found = some record ∧ record.status ≠ .done := by
  simp [pending?, Option.filter_eq_some_iff]

theorem submission_runs {result : BlockResult} {ended : Except Fault ProofStatus}
    (proved : result.status = .ok) (run : (submission result).run.Runs trace (some ended)) :
    ∃ status, ended = .ok status ∧ Judged (.block result) trace (some status) := by
  obtain ⟨reply, after, rfl, run₁⟩ := Action.outcome_bind_ended run Program.runs_query
  cases reply with
  | ok _ =>
    obtain ⟨_, rfl, run₂⟩ := Action.note_bind_ended run₁
    obtain ⟨rfl, ⟨⟩⟩ := Action.pure_runs run₂
    exact ⟨.done, rfl, .accepted proved⟩
  | error fault =>
    obtain ⟨_, rfl, run₂⟩ := Action.note_bind_ended run₁
    obtain ⟨rfl, ⟨⟩⟩ := Action.pure_runs run₂
    exact ⟨.error, rfl, .rejected proved fault⟩

theorem verdict_cases {ended : Except Fault (Option ProofStatus)}
    (run : (verdict result).run.Runs trace (some ended)) :
    ∃ reached, ended = .ok reached ∧ Judged result trace reached := by
  unfold verdict at run
  split at run
  · rename_i proof proved
    rcases Action.runs_bind run with ⟨status, _, _, rfl, submitted, rest⟩ |
      ⟨fault, -, submitted⟩ | ⟨impossible, -⟩
    · obtain ⟨_, ⟨⟩, judged⟩ := submission_runs proved submitted
      obtain ⟨rfl, ⟨⟩⟩ := Action.pure_runs rest
      rw [List.append_nil]
      exact ⟨some status, rfl, judged⟩
    · obtain ⟨_, impossible, -⟩ := submission_runs proved submitted
      cases impossible
    · cases impossible
  · rename_i proved
    obtain ⟨rfl, ⟨⟩⟩ := Action.pure_runs run
    exact ⟨none, rfl, .left proved⟩
  · rename_i failed
    obtain ⟨rfl, ⟨⟩⟩ := Action.pure_runs run
    exact ⟨some .error, rfl, .failed failed⟩

theorem settle_cases (run : (settle result).run.Runs trace (some ended)) :
    Settled result trace ended := by
  obtain ⟨_, rfl, run₁⟩ := Action.note_bind_ended run
  rcases Action.question_bind_ended run₁ Program.runs_query with
    ⟨fault, rfl, rfl⟩ | ⟨found, _, rfl, run₂⟩
  · exact .unread fault
  cases found with
  | none =>
    obtain ⟨rfl, ⟨⟩⟩ := Action.pure_runs run₂
    exact .idle rfl
  | some record =>
    dsimp only at run₂
    split at run₂
    · rename_i finished
      obtain ⟨rfl, ⟨⟩⟩ := Action.pure_runs run₂
      exact .idle (by simp [pending?, finished])
    · rename_i unfinished
      have pending := pending?_eq_some.mpr ⟨rfl, unfinished⟩
      rcases Action.runs_bind run₂ with ⟨reached, judging, rest, rfl, judged, run₃⟩ |
        ⟨fault, -, judged⟩ | ⟨impossible, -⟩
      · obtain ⟨_, ⟨⟩, judged⟩ := verdict_cases judged
        cases reached with
        | none =>
          obtain ⟨rfl, ⟨⟩⟩ := Action.pure_runs run₃
          rw [List.append_nil]
          exact .left pending judged
        | some status =>
          rcases Action.question_bind_ended run₃ Program.runs_query with
            ⟨fault, rfl, rfl⟩ | ⟨marked, _, rfl, run₄⟩
          · exact .unmarked pending judged fault
          · obtain ⟨_, rfl, run₅⟩ := Action.note_bind_ended run₄
            obtain ⟨rfl, ⟨⟩⟩ := Action.pure_runs run₅
            exact .marked pending judged marked
      · obtain ⟨_, impossible, -⟩ := verdict_cases judged
        cases impossible
      · cases impossible

/-- A payload that cannot be read is a fault, and nothing is asked. -/
theorem settlePayload_cases {payload : Bytes}
    (run : (settlePayload payload).run.Runs trace (some ended)) :
    (∃ result, ProvingResult.ofPayload? payload = some result ∧ Settled result trace ended) ∨
      (ProvingResult.ofPayload? payload = none ∧ trace = [] ∧ ended = .error ⟨.parse, "*"⟩) := by
  unfold settlePayload at run
  cases parsed : ProvingResult.ofPayload? payload with
  | none =>
    rw [parsed] at run
    obtain ⟨rfl, ⟨⟩⟩ := Action.fail_runs run
    exact .inr ⟨rfl, rfl, rfl⟩
  | some result =>
    rw [parsed] at run
    exact .inl ⟨result, rfl, settle_cases run⟩

@[simp] theorem afterAll_opening (reply : Except Fault (Option ProofRecord)) :
    store.afterAll (opening result reply) = store := rfl

theorem Judged.afterAll (judged : Judged result judging reached) :
    store.afterAll judging = store := by
  cases judged <;> rfl

theorem Judged.final {status : ProofStatus} (judged : Judged result judging (some status)) :
    status = .done ∨ status = .error := by
  cases judged
  · exact .inl rfl
  · exact .inr rfl
  · exact .inr rfl

theorem ofStatus_ne_skipped (status : ProofStatus) : Settlement.ofStatus status ≠ .skipped := by
  cases status <;> decide

/-- A settlement that fails or is skipped leaves the records as they are. -/
theorem Settled.afterAll_of_unmoved (settled : Settled result trace ended)
    (unmoved : ∀ status, ended ≠ .ok (.ofStatus status)) : store.afterAll trace = store := by
  cases settled with
  | unread fault => rfl
  | idle idle => rfl
  | left pending judged =>
    rw [Store.afterAll_append, afterAll_opening]
    exact judged.afterAll
  | unmarked pending judged fault =>
    rw [Store.afterAll_append, Store.afterAll_append, afterAll_opening, judged.afterAll]
    rfl
  | marked pending judged marked => exact absurd rfl (unmoved _)

/-- A settlement that is reported as done or as an error leaves a record of that status, whoever
keeps the records. -/
theorem Settled.status_eq {status : ProofStatus}
    (settled : Settled result trace (.ok (.ofStatus status))) (final : status ≠ .inProcessing)
    (kept : Store.Kept Store.mayAnswer store trace) :
    ((store.afterAll trace).get? result.hash).map (·.status) = some status := by
  generalize same : (Except.ok (Settlement.ofStatus status) : Except Fault Settlement) = ended
    at settled
  cases settled with
  | unread fault => cases same
  | idle idle => exact absurd (Except.ok.inj same) (ofStatus_ne_skipped status)
  | left pending judged => exact absurd (Except.ok.inj same) (ofStatus_ne_skipped status)
  | unmarked pending judged fault => cases same
  | @marked found record judging status' pending judged marked =>
    have statuses : status' = status := by
      rcases judged.final with rfl | rfl <;> cases status <;>
        first | rfl | exact absurd rfl final | cases same
    subst statuses
    rw [← List.append_assoc] at kept
    have answered := kept.fits_of_mid
    rw [← List.append_assoc, Store.afterAll_append, Store.afterAll_cons]
    rw [Store.afterAll_append, afterAll_opening, judged.afterAll] at answered ⊢
    obtain ⟨record, -, now⟩ := Store.get?_after_mark answered
    exact congrArg (Option.map (·.status)) now

/-- All that the settlement of a result can do with records in memory. -/
inductive Recorded (store : Store) (result : ProvingResult) :
    Trace relaying → Except Fault Settlement → Prop
  /-- There is no record, or it is done. -/
  | idle (idle : pending? (store.get? result.hash) = none) :
      Recorded store result (opening result (.ok (store.get? result.hash))) (.ok .skipped)
  /-- The result leads to no status. -/
  | left {record : ProofRecord} {judging : Trace relaying}
      (pending : pending? (store.get? result.hash) = some record)
      (judged : Judged result judging none) :
      Recorded store result (opening result (.ok (store.get? result.hash)) ++ judging)
        (.ok .skipped)
  /-- The record gets the status that the result leads to. -/
  | marked {record : ProofRecord} {judging : Trace relaying} {status : ProofStatus}
      (pending : pending? (store.get? result.hash) = some record)
      (judged : Judged result judging (some status)) :
      Recorded store result (opening result (.ok (store.get? result.hash)) ++
        (judging ++ [⟨.mark result.hash status, some (.ok { record with status := status })⟩,
          ⟨.note (.moved status), some ()⟩])) (.ok (.ofStatus status))

theorem Settled.recorded (settled : Settled result trace ended)
    (kept : Store.Kept Store.answers store trace) : Recorded store result trace ended := by
  -- The second question of a settlement is answered from the records as they were before it.
  have looked {reply : Except Fault (Option ProofRecord)} {rest : Trace relaying}
      (kept : Store.Kept Store.answers store (opening result reply ++ rest)) :
      reply = .ok (store.get? result.hash) :=
    Store.fetched kept.2.1
  -- A mark is answered from the same records, where one is pending.
  have moved {record : ProofRecord} {judging rest : Trace relaying} {status : ProofStatus}
      {reply : Except Fault ProofRecord}
      (pending : pending? (store.get? result.hash) = some record)
      (judged : Judged result judging (some status))
      (kept : Store.Kept Store.answers store (opening result (.ok (store.get? result.hash)) ++
        (judging ++ ⟨.mark result.hash status, some reply⟩ :: rest))) :
      reply = .ok { record with status := status } := by
    rw [← List.append_assoc] at kept
    have answered := kept.fits_of_mid
    rw [Store.afterAll_append, afterAll_opening, judged.afterAll] at answered
    exact Store.marked (pending?_eq_some.mp pending).1 answered
  cases settled with
  | unread fault =>
    rw [← List.append_nil (opening _ _)] at kept
    cases looked kept
  | idle idle =>
    rw [← List.append_nil (opening _ _)] at kept
    cases looked kept
    exact .idle idle
  | left pending judged =>
    cases looked kept
    exact .left pending judged
  | unmarked pending judged fault =>
    cases looked kept
    cases moved pending judged kept
  | marked pending judged marked =>
    cases looked kept
    cases moved pending judged kept
    exact .marked pending judged

end HeaderRelay.Proof
