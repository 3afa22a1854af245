import HeaderRelay.Proofs.Settling
import HeaderRelay.Relay.Metrics
import Mathlib.Tactic.Ring

set_option autoImplicit false

namespace HeaderRelay

def Event.submission? : Event relaying → Option (String × String)
  | ⟨.submit journal proof, _⟩ => some (journal, proof)
  | _ => none

/-- Whether a question submitted a proof that was accepted. -/
def Event.accepts : Event relaying → Bool
  | ⟨.submit _ _, some (.ok _)⟩ => true
  | _ => false

namespace Proof

def submissions (trace : Trace relaying) : List (String × String) :=
  trace.filterMap Event.submission?

/-- A record to save, or the payload of a result to settle. -/
inductive Job
  | save (record : ProofRecord)
  | settle (payload : Bytes)
  deriving DecidableEq

/-- Does a job; a settlement has an outcome. -/
def Job.perform : Job → Relay (Option (Except Fault Settlement))
  | .save record => do
      let _ ← (Action.save record).run
      return none
  | .settle payload => return some (← (settlePayload payload).run)

/-- Does jobs one after another, whatever comes of each. -/
def performAll : List Job → Relay (List (Option (Except Fault Settlement)))
  | [] => return []
  | job :: jobs => do
      let outcome ← job.perform
      return outcome :: (← performAll jobs)

/-- The result that a job settles, if its payload can be read. -/
def Job.result? : Job → Option ProvingResult
  | .save _ => none
  | .settle payload => ProvingResult.ofPayload? payload

/-- Whether a job saves a record of a hash that is not done. -/
def Job.renews (hash : String) : Job → Bool
  | .save record => record.hash = hash && record.status != .done
  | .settle _ => false

/-- The proof that a result has submitted over some records: that of a block which was proved and
whose record is pending. -/
def dueProof (store : Store) : ProvingResult → List (String × String)
  | .block ⟨hash, journal, proof, .ok⟩ =>
      if (pending? (store.get? hash)).isSome then [(journal, proof)] else []
  | _ => []

/-- Whether a result reports a failure while its record is pending. -/
def reportsFailure (store : Store) (result : ProvingResult) : Bool :=
  result.status = .error && (pending? (store.get? result.hash)).isSome

/-- A job that was done: the records that it found, what it asked, and its outcome. -/
structure Account where
  job : Job
  found : Store
  trace : Trace relaying
  outcome : Option (Except Fault Settlement)

namespace Account

def left (account : Account) : Store := account.found.afterAll account.trace

/-- A job was done to its end, over records in memory. -/
structure Sound (account : Account) : Prop where
  runs : account.job.perform.Runs account.trace (some account.outcome)
  kept : Store.Kept Store.answers account.found account.trace

def due (account : Account) : List (String × String) :=
  match account.job.result? with
  | some result => dueProof account.found result
  | none => []

/-- Whether a job settles a failure while its record is pending. -/
def fails (account : Account) : Bool := account.job.result?.any (reportsFailure account.found)

def Settles (account : Account) (hash : String) : Prop :=
  account.job.result?.map ProvingResult.hash = some hash

end Account

/-- Jobs done one after another, each over the records that the one before left. -/
inductive Accounts : Store → List Account → Prop
  | nil (store : Store) : Accounts store []
  | cons {account : Account} {rest : List Account} (sound : account.Sound)
      (later : Accounts account.left rest) : Accounts account.found (account :: rest)

/-- The counters over a row of questions, where so many results came in and so many of them
reported a failure of a pending record. -/
structure Balanced (trace : Trace relaying) (results failures : Nat) : Prop where
  received : Metrics.count trace.notes (.resultReceived .ok) +
    Metrics.count trace.notes (.resultReceived .error) = results
  accepted : Metrics.count trace.notes (.submitted true) = trace.countP Event.accepts
  submitted : Metrics.count trace.notes (.submitted true) +
    Metrics.count trace.notes (.submitted false) = (submissions trace).length
  done : Metrics.count trace.notes (.moved .done) = Metrics.count trace.notes (.submitted true)
  error : Metrics.count trace.notes (.moved .error) =
    Metrics.count trace.notes (.submitted false) + failures

def Store.Finished (store : Store) (hash : String) : Prop :=
  (store.get? hash).map (·.status) = some .done

variable {store : Store} {jobs : List Job} {trace first second judging : Trace relaying}
  {result : ProvingResult} {reached : Option ProofStatus} {ended : Except Fault Settlement}
  {account : Account} {accounts : List Account} {hash : String}
  {results failures results' failures' : Nat} {record : ProofRecord}

@[simp] theorem submissions_nil : submissions [] = [] := rfl

@[simp] theorem submissions_append :
    submissions (first ++ second) = submissions first ++ submissions second :=
  List.filterMap_append

@[simp] theorem submissions_opening (reply : Except Fault (Option ProofRecord)) :
    submissions (opening result reply) = [] := rfl

theorem Balanced.nil : Balanced [] 0 0 := ⟨rfl, rfl, rfl, rfl, rfl⟩

theorem Balanced.append (before : Balanced first results failures)
    (after : Balanced second results' failures') :
    Balanced (first ++ second) (results + results') (failures + failures') where
  received := by
    simp only [Trace.notes_append, Metrics.count_append, ← before.received, ← after.received]
    ring
  accepted := by
    simp only [Trace.notes_append, Metrics.count_append, List.countP_append, before.accepted,
      after.accepted]
  submitted := by
    simp only [Trace.notes_append, Metrics.count_append, submissions_append, List.length_append,
      ← before.submitted, ← after.submitted]
    ring
  done := by
    simp only [Trace.notes_append, Metrics.count_append, before.done, after.done]
  error := by
    simp only [Trace.notes_append, Metrics.count_append, before.error, after.error]
    ring

theorem not_finished_of_pending (pending : pending? (store.get? hash) = some record) :
    ¬ store.Finished hash := by
  intro finished
  obtain ⟨found, unfinished⟩ := pending?_eq_some.mp pending
  rw [Store.Finished, found] at finished
  exact unfinished (Option.some.inj finished)

/-- What is submitted while a result is judged is its proof. -/
theorem Judged.submissions_eq (judged : Judged result judging reached)
    (pending : pending? (store.get? result.hash) = some record) :
    submissions judging = dueProof store result := by
  have there : (pending? (store.get? result.hash)).isSome := by rw [pending]; rfl
  cases judged with
  | @accepted result proved =>
    obtain ⟨hash, journal, proof, status⟩ := result
    cases proved
    exact (if_pos there).symm
  | @rejected result proved fault =>
    obtain ⟨hash, journal, proof, status⟩ := result
    cases proved
    exact (if_pos there).symm
  | left proved => rfl
  | failed failed =>
    rcases result with ⟨hash, journal, proof, status⟩ | _
    · cases failed
      rfl
    · rfl

theorem Recorded.submissions_eq (recorded : Recorded store result trace ended) :
    submissions trace = dueProof store result := by
  cases recorded with
  | idle idle =>
    rcases result with ⟨hash, journal, proof, _ | _⟩ | _
    · have none : (pending? (store.get? hash)).isSome = false := by
        rw [Option.isSome_eq_false_iff, Option.isNone_iff_eq_none]
        exact idle
      simp only [submissions_opening, dueProof, none, Bool.false_eq_true, if_false]
    · rfl
    · rfl
  | left pending judged =>
    rw [submissions_append, submissions_opening, List.nil_append]
    exact judged.submissions_eq pending
  | marked pending judged =>
    rw [submissions_append, submissions_append, submissions_opening, List.nil_append,
      judged.submissions_eq pending]
    exact List.append_nil _

/-- What a verdict counts, with the move that it leads to. -/
theorem Judged.balanced {status : ProofStatus} (judged : Judged result judging (some status))
    (marked : ProofRecord) :
    Balanced (judging ++ [⟨.mark result.hash status, some (.ok marked)⟩,
      ⟨.note (.moved status), some ()⟩]) 0 (if result.status = .error then 1 else 0) := by
  cases judged with
  | @accepted result proved =>
    have status : (ProvingResult.block result).status = .ok := proved
    rw [status]
    constructor <;> rfl
  | @rejected result proved fault =>
    have status : (ProvingResult.block result).status = .ok := proved
    rw [status]
    constructor <;> rfl
  | failed failed =>
    rw [failed]
    constructor <;> rfl

/-- A settlement counts one result; what moves is a proof that was accepted or not, or a failure
that was reported. -/
theorem Recorded.balanced (recorded : Recorded store result trace ended) :
    Balanced trace 1 (if reportsFailure store result then 1 else 0) := by
  have received (reply : Except Fault (Option ProofRecord)) :
      Balanced (opening result reply) 1 0 := by
    unfold opening
    cases result.status <;> constructor <;> rfl
  cases recorded with
  | idle idle =>
    have none : reportsFailure store result = false := by
      simp [reportsFailure, idle]
    rw [none]
    exact received _
  | left pending judged =>
    cases judged with
    | @left result proved =>
      have none : reportsFailure store (.epoch result) = false := by
        simp [reportsFailure, ProvingResult.status, proved]
      rw [none]
      exact received _
  | @marked record judging status pending judged =>
    have reports : reportsFailure store result = decide (result.status = .error) := by
      simp [reportsFailure, pending]
    have both := (received (.ok (store.get? result.hash))).append
      (judged.balanced { record with status := status })
    simpa only [reports, decide_eq_true_eq, Nat.add_zero, Nat.zero_add] using both

theorem Recorded.skipped (recorded : Recorded store result trace ended)
    (still : ∀ status, .moved status ∉ trace.notes) : ended = .ok .skipped := by
  cases recorded with
  | idle idle => rfl
  | left pending judged => rfl
  | @marked record judging status pending judged =>
    refine absurd ?_ (still status)
    simp only [Trace.notes_append, Trace.notes_cons, Call.note?, List.mem_append]
    exact .inr (.inr (.inr (.inl List.mem_cons_self)))

theorem Recorded.finished (recorded : Recorded store result trace ended)
    (finished : store.Finished hash) : (store.afterAll trace).Finished hash := by
  cases recorded with
  | idle idle => exact finished
  | left pending judged =>
    rw [Store.afterAll_append, afterAll_opening, judged.afterAll]
    exact finished
  | @marked record judging status pending judged =>
    have other : hash ≠ result.hash := by
      rintro rfl
      exact not_finished_of_pending pending finished
    obtain ⟨next, marks, get?⟩ := Store.mark_of_get? (pending?_eq_some.mp pending).1 status
    rw [Store.afterAll_append, afterAll_opening, Store.afterAll_append, judged.afterAll]
    simp only [Store.afterAll_cons, Store.afterAll_nil, Store.after, marks, Store.Finished, get?,
      if_neg other]
    exact finished

theorem Recorded.finished_of_accepts (recorded : Recorded store result trace ended)
    (accepts : ∃ event ∈ trace, event.accepts = true) :
    (store.afterAll trace).Finished result.hash := by
  have opens {reply : Except Fault (Option ProofRecord)} :
      ∀ event ∈ opening result reply, event.accepts = false := by
    simp [opening, Event.accepts]
  obtain ⟨event, member, accepted⟩ := accepts
  have elsewhere {reply : Except Fault (Option ProofRecord)} {rest : Trace relaying}
      (member : event ∈ opening result reply ++ rest) : event ∈ rest := by
    rcases List.mem_append.mp member with early | late
    · rw [opens event early] at accepted
      cases accepted
    · exact late
  cases recorded with
  | idle idle =>
    rw [← List.append_nil (opening _ _)] at member
    cases elsewhere member
  | left pending judged =>
    cases judged with
    | left proved => cases elsewhere member
  | @marked record judging status pending judged =>
    obtain ⟨next, marks, get?⟩ := Store.mark_of_get? (pending?_eq_some.mp pending).1 status
    have isDone : status = .done := by
      have late := elsewhere member
      cases judged with
      | accepted proved => rfl
      | rejected proved fault =>
        simp only [List.cons_append, List.nil_append, List.mem_cons, List.not_mem_nil,
          or_false] at late
        rcases late with rfl | rfl | rfl | rfl <;> cases accepted
      | failed failed =>
        simp only [List.nil_append, List.mem_cons, List.not_mem_nil, or_false] at late
        rcases late with rfl | rfl <;> cases accepted
    subst isDone
    rw [Store.afterAll_append, afterAll_opening, Store.afterAll_append, judged.afterAll]
    simp only [Store.afterAll_cons, Store.afterAll_nil, Store.after, marks, Store.Finished, get?,
      if_true, Option.map_some]

/-- A job saves its record, or has a payload that cannot be read, or settles its result. -/
theorem Account.Sound.cases (sound : account.Sound) :
    (∃ record, account.job = .save record ∧ account.trace = [⟨.save record, some (.ok ())⟩]) ∨
    (account.job.result? = none ∧ account.trace = []) ∨
    ∃ payload result ended, account.job = .settle payload ∧ account.job.result? = some result ∧
      account.outcome = some ended ∧ Recorded account.found result account.trace ended := by
  obtain ⟨job, found, trace, outcome⟩ := account
  obtain ⟨runs, kept⟩ := sound
  dsimp only at runs kept ⊢
  cases job with
  | save record =>
    obtain ⟨reply, _, _, rfl, saved, rest⟩ := Program.runs_bind_ended runs
    obtain rfl := Program.runs_query saved
    obtain ⟨rfl, -⟩ := Program.runs_done rest
    cases reply with
    | ok _ => exact .inl ⟨record, rfl, rfl⟩
    | error fault => cases kept.1
  | settle payload =>
    obtain ⟨ended, _, _, rfl, settled, rest⟩ := Program.runs_bind_ended runs
    obtain ⟨rfl, ⟨⟩⟩ := Program.runs_done rest
    rw [List.append_nil] at kept ⊢
    rcases settlePayload_cases settled with ⟨result, parsed, settled⟩ | ⟨unread, rfl, -⟩
    · exact .inr (.inr ⟨payload, result, ended, rfl, parsed, rfl, settled.recorded kept⟩)
    · exact .inr (.inl ⟨unread, rfl⟩)

theorem Account.Sound.submissions_eq (sound : account.Sound) :
    submissions account.trace = account.due := by
  unfold Account.due
  rcases sound.cases with ⟨record, job, trace⟩ | ⟨unread, trace⟩ |
    ⟨payload, result, ended, -, parsed, -, recorded⟩
  · rw [trace, job]
    rfl
  · rw [trace, unread]
    rfl
  · rw [parsed]
    exact recorded.submissions_eq

theorem Account.Sound.balanced (sound : account.Sound) :
    Balanced account.trace (if account.job.result?.isSome then 1 else 0)
      (if account.fails then 1 else 0) := by
  unfold Account.fails
  rcases sound.cases with ⟨record, job, trace⟩ | ⟨unread, trace⟩ |
    ⟨payload, result, ended, -, parsed, -, recorded⟩
  · rw [trace, job]
    constructor <;> rfl
  · rw [trace, unread]
    exact .nil
  · rw [parsed]
    exact recorded.balanced

theorem Account.Sound.skipped (sound : account.Sound) (parsed : account.job.result?.isSome)
    (still : ∀ status, .moved status ∉ account.trace.notes) :
    account.outcome = some (.ok .skipped) := by
  rcases sound.cases with ⟨record, job, trace⟩ | ⟨unread, trace⟩ |
    ⟨payload, result, ended, -, -, outcome, recorded⟩
  · rw [job] at parsed
    cases parsed
  · rw [unread] at parsed
    cases parsed
  · rw [outcome, recorded.skipped still]

/-- A record that is done stays done as long as none that is not is saved for its hash. -/
theorem Account.Sound.finished (sound : account.Sound) (finished : account.found.Finished hash)
    (same : account.job.renews hash = false) : account.left.Finished hash := by
  unfold Account.left
  rcases sound.cases with ⟨record, job, trace⟩ | ⟨unread, trace⟩ |
    ⟨payload, result, ended, -, -, -, recorded⟩
  · rw [trace]
    change (account.found.put record).Finished hash
    rw [Store.Finished, Store.get?_put]
    split
    · rename_i key
      simp only [job, Job.renews, key, decide_true, Bool.true_and, bne_eq_false_iff_eq] at same
      rw [Option.map_some, same]
    · exact finished
  · rw [trace]
    exact finished
  · exact recorded.finished finished

theorem Account.Sound.finished_of_accepts (sound : account.Sound) (settles : account.Settles hash)
    (accepts : ∃ event ∈ account.trace, event.accepts = true) : account.left.Finished hash := by
  unfold Account.Settles at settles
  rcases sound.cases with ⟨record, job, trace⟩ | ⟨unread, trace⟩ |
    ⟨payload, result, ended, -, parsed, -, recorded⟩
  · rw [job] at settles
    cases settles
  · rw [unread] at settles
    cases settles
  · rw [parsed] at settles
    obtain rfl := Option.some.inj settles
    exact recorded.finished_of_accepts accepts

theorem Account.due_of_finished (settles : account.Settles hash)
    (finished : account.found.Finished hash) : account.due = [] := by
  unfold Account.Settles at settles
  unfold Account.due
  cases parsed : account.job.result? with
  | none => rfl
  | some result =>
    rw [parsed] at settles
    obtain rfl := Option.some.inj settles
    rcases result with ⟨key, journal, proof, _ | _⟩ | _
    · cases pending : pending? (account.found.get? key) with
      | none => simp [dueProof, pending]
      | some record => exact absurd finished (not_finished_of_pending pending)
    · rfl
    · rfl

theorem Accounts.of_mid {before after : List Account}
    (booked : Accounts store (before ++ account :: after)) :
    account.Sound ∧ Accounts account.left after := by
  induction before generalizing store with
  | nil =>
    cases booked with
    | cons sound later => exact ⟨sound, later⟩
  | cons other before ih =>
    cases booked with
    | cons sound later => exact ih later

theorem Accounts.sound (booked : Accounts store accounts) (member : account ∈ accounts) :
    account.Sound := by
  obtain ⟨before, after, rfl⟩ := List.append_of_mem member
  exact booked.of_mid.1

/-- A record that is done is still done when a later job finds it, unless one that is not was saved
for its hash. -/
theorem Accounts.finished {between after : List Account}
    (booked : Accounts store (between ++ account :: after)) (finished : store.Finished hash)
    (same : ∀ other ∈ between, other.job.renews hash = false) : account.found.Finished hash := by
  induction between generalizing store with
  | nil =>
    cases booked with
    | cons sound later => exact finished
  | cons other between ih =>
    cases booked with
    | cons sound later =>
      obtain ⟨now, rest⟩ := List.forall_mem_cons.mp same
      exact ih later (sound.finished finished now) rest

theorem Accounts.balanced (booked : Accounts store accounts) :
    Balanced (accounts.map Account.trace).flatten
      (accounts.countP (·.job.result?.isSome)) (accounts.countP Account.fails) := by
  induction booked with
  | nil store => exact .nil
  | cons sound later ih =>
    rw [List.map_cons, List.flatten_cons, List.countP_cons, List.countP_cons, Nat.add_comm,
      Nat.add_comm (List.countP Account.fails _)]
    exact sound.balanced.append ih

/-- Jobs that are done one after another can be booked one by one. -/
theorem exists_accounts {outcomes : List (Option (Except Fault Settlement))}
    (run : (performAll jobs).Runs trace (some outcomes))
    (kept : Store.Kept Store.answers store trace) :
    ∃ accounts, Accounts store accounts ∧ accounts.map Account.job = jobs ∧
      accounts.map Account.outcome = outcomes ∧ (accounts.map Account.trace).flatten = trace := by
  induction jobs generalizing store trace outcomes with
  | nil =>
    obtain ⟨rfl, ⟨⟩⟩ := Program.runs_done run
    exact ⟨[], .nil store, rfl, rfl, rfl⟩
  | cons job jobs ih =>
    obtain ⟨outcome, first, _, rfl, performed, rest⟩ := Program.runs_bind_ended run
    obtain ⟨more, second, _, rfl, others, ended⟩ := Program.runs_bind_ended rest
    obtain ⟨rfl, ⟨⟩⟩ := Program.runs_done ended
    rw [List.append_nil] at kept ⊢
    obtain ⟨now, later⟩ := Store.kept_append.mp kept
    obtain ⟨accounts, booked, jobs, outcomes, traces⟩ := ih others later
    have sound : (⟨job, store, first, outcome⟩ : Account).Sound := ⟨performed, now⟩
    refine ⟨⟨job, store, first, outcome⟩ :: accounts, .cons sound booked, ?_⟩
    simp only [List.map_cons, List.flatten_cons, jobs, outcomes, traces, and_self]

/-- A proof is submitted exactly where it is due: for a block that was proved, as long as its record
is there and not done. After one that was accepted none is submitted for the same block until a
record that is not done is saved for it, and the counters over all jobs balance. -/
theorem submissions_balance {outcomes : List (Option (Except Fault Settlement))}
    (run : (performAll jobs).Runs trace (some outcomes))
    (kept : Store.Kept Store.answers store trace) :
    ∃ accounts, Accounts store accounts ∧ accounts.map Account.job = jobs ∧
      accounts.map Account.outcome = outcomes ∧ (accounts.map Account.trace).flatten = trace ∧
      (∀ account ∈ accounts, submissions account.trace = account.due) ∧
      (∀ before first between second after hash,
        accounts = before ++ first :: (between ++ second :: after) →
        first.Settles hash → (∃ event ∈ first.trace, event.accepts = true) →
        second.Settles hash → submissions second.trace ≠ [] →
        ∃ renewal ∈ between, renewal.job.renews hash = true) ∧
      Balanced trace (jobs.countP (·.result?.isSome)) (accounts.countP Account.fails) ∧
      ∀ account ∈ accounts, account.job.result?.isSome →
        (∀ status, .moved status ∉ account.trace.notes) →
        account.outcome = some (.ok .skipped) := by
  obtain ⟨accounts, booked, rfl, outcomes, rfl⟩ := exists_accounts run kept
  refine ⟨accounts, booked, rfl, outcomes, rfl, ?_, ?_, ?_, ?_⟩
  · intro account member
    exact (booked.sound member).submissions_eq
  · rintro before first between second after hash rfl settles accepts settles' submits
    by_contra none
    have same : ∀ other ∈ between, other.job.renews hash = false := by
      intro other member
      rw [← Bool.not_eq_true]
      exact fun renews => none ⟨other, member, renews⟩
    obtain ⟨sound, later⟩ := booked.of_mid
    have finished := later.finished (sound.finished_of_accepts settles accepts) same
    rw [later.of_mid.1.submissions_eq] at submits
    exact submits (Account.due_of_finished settles' finished)
  · rw [List.countP_map]
    exact booked.balanced
  · intro account member
    exact (booked.sound member).skipped

/-- A block whose proof is accepted, delivered again and, after the block was asked for again,
rejected. -/
def redelivery : Trace relaying :=
  let record : ProofRecord := ⟨"H9", 9, "H3", 0, .inProcessing, 0⟩
  [⟨.save record, some (.ok ())⟩,
    ⟨.note (.resultReceived .ok), some ()⟩,
    ⟨.fetch "H9", some (.ok (some record))⟩,
    ⟨.submit "0x01" "0x02", some (.ok ())⟩,
    ⟨.note (.submitted true), some ()⟩,
    ⟨.mark "H9" .done, some (.ok { record with status := .done })⟩,
    ⟨.note (.moved .done), some ()⟩,
    ⟨.note (.resultReceived .ok), some ()⟩,
    ⟨.fetch "H9", some (.ok (some { record with status := .done }))⟩,
    ⟨.save record, some (.ok ())⟩,
    ⟨.note (.resultReceived .ok), some ()⟩,
    ⟨.fetch "H9", some (.ok (some record))⟩,
    ⟨.submit "0x01" "0x02", some (.error ⟨.ledger, "reverted"⟩)⟩,
    ⟨.note (.submitted false), some ()⟩,
    ⟨.mark "H9" .error, some (.ok { record with status := .error })⟩,
    ⟨.note (.moved .error), some ()⟩]

def redeliveryJobs : List Job :=
  let record : ProofRecord := ⟨"H9", 9, "H3", 0, .inProcessing, 0⟩
  let payload := Utf8.encode ("\x7b\"currentBlockHash\":\"H9\",\"journal\":\"0x01\"," ++
    "\"proof\":\"0x02\",\"status\":\"OK\"\x7d")
  [.save record, .settle payload, .settle payload, .save record, .settle payload]

theorem submissions_balance_redelivery :
    ∃ outcomes, (performAll redeliveryJobs).Runs redelivery (some outcomes) ∧
    Store.Kept Store.answers .empty redelivery ∧
    Balanced redelivery 3 0 ∧ (submissions redelivery).length = 2 ∧
    ∃ accounts, Accounts .empty accounts ∧ accounts.map Account.job = redeliveryJobs ∧
      ∀ account ∈ accounts, submissions account.trace = account.due := by
  have run : (performAll redeliveryJobs).Runs redelivery
      (some [none, some (.ok .done), some (.ok .skipped), none, some (.ok .error)]) :=
    Program.runs_of_replay? (by decide +kernel)
  have kept : Store.Kept Store.answers .empty redelivery := by decide +kernel
  obtain ⟨accounts, booked, jobs, -, -, due, -, balanced, -⟩ := submissions_balance run kept
  have read : redeliveryJobs.countP (·.result?.isSome) = 3 := by decide +kernel
  have unreported : accounts.countP Account.fails = 0 := by
    have moved := balanced.error
    have one : Metrics.count redelivery.notes (.moved .error) = 1 := rfl
    have rejected : Metrics.count redelivery.notes (.submitted false) = 1 := rfl
    omega
  rw [read, unreported] at balanced
  exact ⟨_, run, kept, balanced, rfl, accounts, booked, jobs, due⟩

end Proof

end HeaderRelay
