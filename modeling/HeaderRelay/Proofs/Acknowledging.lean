import HeaderRelay.Bus.Consumer
import HeaderRelay.Proofs.Delivery
import HeaderRelay.Proofs.Settling

/-
Which messages a consumer of results acknowledges. A run of the consumer is a row of messages, each
settled once and then, if it is delivered at least once and done with, acknowledged. What is asked
in between to settle them is the same for both ways of delivery.
-/

set_option autoImplicit false

namespace HeaderRelay

/-- The question of one interface that a question of two is, if it is one. -/
def Event.right? {I J : Interface} : Event (J.both I) → Option (Event I)
  | ⟨.inr call, reply⟩ => some ⟨call, reply⟩
  | ⟨.inl _, _⟩ => none

namespace Bus.Consumer

instance : DecidableEq (busServer.both relaying).Call :=
  inferInstanceAs (DecidableEq (ServerCall ⊕ Call))

abbrev Consumption := Trace (busServer.both relaying)

def awaits (event : Event (busServer.both relaying)) : Bool :=
  match event.call with
  | .inl .next => true
  | _ => false

/-- Whether a message is acknowledged before anything else is asked of the bus. -/
def acknowledged : Consumption → Bool
  | [] => false
  | ⟨.inr _, _⟩ :: trace => acknowledged trace
  | ⟨.inl .acknowledge, _⟩ :: _ => true
  | ⟨.inl _, _⟩ :: _ => false

/-- The messages that came, and whether each was acknowledged. -/
def receipts : Consumption → List (Bytes × Bool)
  | [] => []
  | ⟨.inl .next, some (.message payload)⟩ :: trace =>
      (payload, acknowledged trace) :: receipts trace
  | _ :: trace => receipts trace

def relayed (trace : Consumption) : Trace relaying := trace.filterMap Event.right?

/-- A message, what was asked to settle it, and how that ended. -/
structure Handling where
  payload : Bytes
  trace : Trace relaying
  ended : Except Fault Proof.Settlement

def arriving (arrival : Arrival) : Event (busServer.both relaying) := ⟨.inl .next, some arrival⟩

def acknowledging : Event (busServer.both relaying) := ⟨.inl .acknowledge, some ()⟩

namespace Handling

def settled (handling : Handling) : Bool := isSettled handling.ended

def receipt (handling : Handling) : Delivery → Consumption
  | .atMostOnce => []
  | .atLeastOnce => if handling.settled then [acknowledging] else []

/-- Whether the message is acknowledged when it is delivered in some way. -/
def acknowledges (delivery : Delivery) (handling : Handling) : Bool :=
  delivery = .atLeastOnce && handling.settled

theorem receipt_eq (handling : Handling) (delivery : Delivery) :
    handling.receipt delivery =
      if handling.acknowledges delivery then [acknowledging] else [] := by
  cases delivery <;> rfl

/-- All that is asked while the message is handled. -/
def events (handling : Handling) (delivery : Delivery) : Consumption :=
  arriving (.message handling.payload) ::
    (handling.trace.map Event.right ++ handling.receipt delivery)

def Sound (handling : Handling) : Prop :=
  (Proof.settlePayload handling.payload).run.Runs handling.trace (some handling.ended)

end Handling

def settling (handlings : List Handling) : Trace relaying :=
  (handlings.map Handling.trace).flatten

/-- The messages that a consumer handles, and all that it asks, until it ends or has come to the end
of its fuel. -/
inductive Consumed (delivery : Delivery) :
    Nat → List Handling → Consumption → Option (Except Fault Unit) → Prop
  | exhausted : Consumed delivery 0 [] [] none
  | closed (fuel : Nat) :
      Consumed delivery (fuel + 1) [] [arriving .closed] (some (.error (Consumer.ended delivery)))
  | cancelled (fuel : Nat) :
      Consumed delivery (fuel + 1) [] [arriving .cancelled] (some (.ok ()))
  | lost {fuel : Nat} {handlings : List Handling} {trace : Consumption}
      {outcome : Option (Except Fault Unit)}
      (later : Consumed delivery fuel handlings trace outcome) :
      Consumed delivery (fuel + 1) handlings (arriving .lost :: trace) outcome
  | handled {fuel : Nat} {handling : Handling} {handlings : List Handling} {trace : Consumption}
      {outcome : Option (Except Fault Unit)} (sound : handling.Sound)
      (later : Consumed delivery fuel handlings trace outcome) :
      Consumed delivery (fuel + 1) (handling :: handlings) (handling.events delivery ++ trace)
        outcome

variable {delivery : Delivery} {fuel : Nat} {handling : Handling}
  {handlings before after : List Handling} {trace front rest : Consumption}
  {outcome : Option (Except Fault Unit)} {store : Proof.Store} {body : Trace relaying}

theorem handle_runs {payload : Bytes} (run : (handle delivery payload).Runs trace (some ())) :
    ∃ handling : Handling, handling.payload = payload ∧ handling.Sound ∧
      trace = handling.trace.map Event.right ++ handling.receipt delivery := by
  obtain ⟨ended, _, _, rfl, settles, acknowledges⟩ := Program.runs_bind_ended run
  obtain ⟨body, rfl, sound⟩ := Program.right_runs settles
  refine ⟨⟨payload, body, ended⟩, rfl, sound, ?_⟩
  congr 1
  cases delivery with
  | atMostOnce => exact (Program.runs_done acknowledges).1
  | atLeastOnce =>
    cases settled : isSettled ended with
    | false =>
      rw [settled] at acknowledges
      simp only [Handling.receipt, Handling.settled, settled]
      exact (Program.runs_done acknowledges).1
    | true =>
      rw [settled] at acknowledges
      simp only [Handling.receipt, Handling.settled, settled]
      exact Program.runs_query acknowledges

theorem runs_handle (sound : handling.Sound) :
    (handle delivery handling.payload).Runs
      (handling.trace.map Event.right ++ handling.receipt delivery) (some ()) := by
  refine Program.Runs.bind sound.right ?_
  cases delivery with
  | atMostOnce => exact .done ()
  | atLeastOnce =>
    cases settled : isSettled handling.ended with
    | false =>
      simp only [Handling.receipt, Handling.settled, settled]
      exact .done ()
    | true =>
      simp only [Handling.receipt, Handling.settled, settled]
      exact @Program.Runs.answered (busServer.both relaying) _ (.inl .acknowledge) _ _ _ ()
        (.done ())

/-- A consumer that ends handles one message after another. -/
theorem consume_runs (run : (consume delivery fuel).Runs trace (some outcome)) :
    ∃ handlings, Consumed delivery fuel handlings trace outcome := by
  induction fuel generalizing trace with
  | zero =>
    obtain ⟨rfl, ⟨⟩⟩ := Program.runs_done run
    exact ⟨[], .exhausted⟩
  | succ fuel ih =>
    obtain ⟨arrival, _, _, rfl, comes, goes⟩ := Program.runs_bind_ended run
    obtain rfl : _ = [arriving arrival] := Program.runs_query comes
    cases arrival with
    | message payload =>
      obtain ⟨⟨⟩, _, _, rfl, handles, further⟩ := Program.runs_bind_ended goes
      obtain ⟨handling, rfl, sound, rfl⟩ := handle_runs handles
      obtain ⟨handlings, consumed⟩ := ih further
      refine ⟨handling :: handlings, ?_⟩
      simpa [Handling.events] using Consumed.handled sound consumed
    | lost =>
      obtain ⟨handlings, consumed⟩ := ih goes
      exact ⟨handlings, .lost consumed⟩
    | closed =>
      obtain ⟨rfl, ⟨⟩⟩ := Program.runs_done goes
      exact ⟨[], .closed fuel⟩
    | cancelled =>
      obtain ⟨rfl, ⟨⟩⟩ := Program.runs_done goes
      exact ⟨[], .cancelled fuel⟩

theorem runs_arriving {arrival : Arrival}
    (goes : Program.Runs (match arrival with
      | .message payload => (handle delivery payload).bind fun _ => consume delivery fuel
      | .lost => consume delivery fuel
      | .closed => .done (some (.error (ended delivery)))
      | .cancelled => .done (some (.ok ()))) trace (some outcome)) :
    (consume delivery (fuel + 1)).Runs (arriving arrival :: trace) (some outcome) := by
  have comes : (Program.query (I := busServer.both relaying) (.inl .next)).Runs
      [arriving arrival] (some arrival) :=
    @Program.Runs.answered (busServer.both relaying) _ (.inl .next) _ _ _ arrival (.done arrival)
  exact comes.bind goes

/-- Messages that can be handled are a run of the consumer. -/
theorem Consumed.runs (consumed : Consumed delivery fuel handlings trace outcome) :
    (consume delivery fuel).Runs trace (some outcome) := by
  induction consumed with
  | exhausted => exact .done none
  | closed fuel => exact runs_arriving (.done _)
  | cancelled fuel => exact runs_arriving (.done _)
  | lost later ih => exact runs_arriving ih
  | handled sound later ih => exact runs_arriving ((runs_handle sound).bind ih)

@[simp] theorem settling_nil : settling [] = [] := rfl

@[simp] theorem settling_cons :
    settling (handling :: handlings) = handling.trace ++ settling handlings := by
  simp [settling]

@[simp] theorem settling_append :
    settling (before ++ after) = settling before ++ settling after := by
  simp [settling]

@[simp] theorem relayed_append : relayed (front ++ rest) = relayed front ++ relayed rest :=
  List.filterMap_append

@[simp] theorem relayed_arriving (arrival : Arrival) :
    relayed (arriving arrival :: trace) = relayed trace := rfl

@[simp] theorem relayed_right : relayed (body.map Event.right) = body := by
  induction body with
  | nil => rfl
  | cons event body ih => exact congrArg (event :: ·) ih

@[simp] theorem relayed_receipt : relayed (handling.receipt delivery) = [] := by
  rw [Handling.receipt_eq]
  split <;> rfl

@[simp] theorem relayed_events : relayed (handling.events delivery) = handling.trace := by
  simp [Handling.events]

@[simp] theorem acknowledged_right :
    acknowledged (body.map Event.right ++ rest) = acknowledged rest := by
  induction body with
  | nil => rfl
  | cons event body ih => exact ih

@[simp] theorem receipts_right : receipts (body.map Event.right ++ rest) = receipts rest := by
  induction body with
  | nil => rfl
  | cons event body ih => exact ih

@[simp] theorem receipts_receipt :
    receipts (handling.receipt delivery ++ rest) = receipts rest := by
  rw [Handling.receipt_eq]
  split <;> rfl

theorem Consumed.silent (consumed : Consumed delivery fuel handlings trace outcome) :
    acknowledged trace = false := by
  cases consumed <;> rfl

theorem acknowledged_receipt (silent : acknowledged rest = false) :
    acknowledged (handling.receipt delivery ++ rest) = handling.acknowledges delivery := by
  rw [Handling.receipt_eq]
  cases handling.acknowledges delivery with
  | false => exact silent
  | true => rfl

/-- Every message is handled once, in the order in which they come, and acknowledged if it is done
with. -/
theorem Consumed.receipts_eq (consumed : Consumed delivery fuel handlings trace outcome) :
    receipts trace =
      handlings.map fun handling => (handling.payload, handling.acknowledges delivery) := by
  induction consumed with
  | exhausted => rfl
  | closed fuel => rfl
  | cancelled fuel => rfl
  | lost later ih => exact ih
  | @handled fuel handling handlings trace outcome sound later ih =>
    have acknowledges : acknowledged (handling.receipt delivery ++ trace) =
        handling.acknowledges delivery := acknowledged_receipt later.silent
    have one : receipts (handling.events delivery ++ trace) =
        (handling.payload, acknowledged (handling.trace.map Event.right ++
          handling.receipt delivery ++ trace)) ::
          receipts (handling.trace.map Event.right ++ handling.receipt delivery ++ trace) := rfl
    rw [one, List.append_assoc, acknowledged_right, acknowledges, receipts_right, receipts_receipt,
      ih, List.map_cons]

theorem Consumed.relayed_eq (consumed : Consumed delivery fuel handlings trace outcome) :
    relayed trace = settling handlings := by
  induction consumed with
  | exhausted => rfl
  | closed fuel => rfl
  | cancelled fuel => rfl
  | lost later ih => exact ih
  | handled sound later ih => rw [relayed_append, relayed_events, ih, settling_cons]

theorem Consumed.sound (consumed : Consumed delivery fuel handlings trace outcome) :
    ∀ handling ∈ handlings, handling.Sound := by
  induction consumed with
  | exhausted => exact List.forall_mem_nil _
  | closed fuel => exact List.forall_mem_nil _
  | cancelled fuel => exact List.forall_mem_nil _
  | lost later ih => exact ih
  | handled sound later ih => exact List.forall_mem_cons.mpr ⟨sound, ih⟩

/-- How a consumer concludes: nothing that is handled stops it, only the end of its fuel, the end of
the messages, or being asked to. -/
def Concluded (delivery : Delivery) (fuel : Nat) (trace : Consumption) :
    Option (Except Fault Unit) → Prop
  | none => trace.countP awaits = fuel
  | some (.ok ()) => ∃ front, trace = front ++ [arriving .cancelled]
  | some (.error fault) => fault = ended delivery ∧ ∃ front, trace = front ++ [arriving .closed]

theorem countP_awaits_events : (handling.events delivery).countP awaits = 1 := by
  have settles : (handling.trace.map Event.right).countP awaits = 0 := by
    apply List.countP_eq_zero.mpr
    intro event member
    obtain ⟨asked, -, rfl⟩ := List.mem_map.mp member
    exact Bool.false_ne_true
  have confirms : (handling.receipt delivery).countP awaits = 0 := by
    rw [Handling.receipt_eq]
    split <;> rfl
  rw [Handling.events, List.countP_cons, List.countP_append, settles, confirms]
  rfl

theorem Concluded.cons (concluded : Concluded delivery fuel trace outcome)
    (one : front.countP awaits = 1) : Concluded delivery (fuel + 1) (front ++ trace) outcome := by
  rcases outcome with _ | fault | ⟨⟩
  · have all : trace.countP awaits = fuel := concluded
    change (front ++ trace).countP awaits = fuel + 1
    rw [List.countP_append, one, all, Nat.add_comm]
  · obtain ⟨same, rest, rfl⟩ := concluded
    exact ⟨same, front ++ rest, (List.append_assoc ..).symm⟩
  · obtain ⟨rest, rfl⟩ := concluded
    exact ⟨front ++ rest, (List.append_assoc ..).symm⟩

theorem Consumed.concluded (consumed : Consumed delivery fuel handlings trace outcome) :
    Concluded delivery fuel trace outcome := by
  induction consumed with
  | exhausted => exact List.countP_nil
  | closed fuel => exact ⟨rfl, [], rfl⟩
  | cancelled fuel => exact ⟨[], rfl⟩
  | lost later ih =>
    have one : [arriving .lost].countP awaits = 1 := rfl
    exact ih.cons one
  | handled sound later ih => exact ih.cons countP_awaits_events

theorem cut_right {later : Consumption}
    (split : body.map Event.right ++ later = front ++ acknowledging :: rest) :
    ∃ between, front = body.map Event.right ++ between ∧
      later = between ++ acknowledging :: rest := by
  induction body generalizing front with
  | nil => exact ⟨front, rfl, split⟩
  | cons event body ih =>
    cases front with
    | nil => cases (List.cons.inj split).1
    | cons first front =>
      obtain ⟨rfl, same⟩ := List.cons.inj split
      obtain ⟨between, rfl, found⟩ := ih same
      exact ⟨between, rfl, found⟩

/-- What is acknowledged is the last message, once it was settled. -/
theorem Consumed.before_acknowledging
    (consumed : Consumed delivery fuel handlings trace outcome)
    (split : trace = front ++ acknowledging :: rest) :
    ∃ before handling after, handlings = before ++ handling :: after ∧
      handling.acknowledges delivery = true ∧
      relayed front = settling (before ++ [handling]) := by
  induction consumed generalizing front with
  | exhausted => cases (List.append_eq_nil_iff.mp split.symm).2
  | closed fuel =>
    rcases front with _ | ⟨event, front⟩
    · cases split
    · cases (List.append_eq_nil_iff.mp (List.cons.inj split).2.symm).2
  | cancelled fuel =>
    rcases front with _ | ⟨event, front⟩
    · cases split
    · cases (List.append_eq_nil_iff.mp (List.cons.inj split).2.symm).2
  | lost later ih =>
    rcases front with _ | ⟨event, front⟩
    · cases split
    · obtain ⟨rfl, same⟩ := List.cons.inj split
      rw [relayed_arriving]
      exact ih same
  | @handled fuel handling handlings trace outcome sound later ih =>
    -- The acknowledgement is the one of this message, or it comes with a later one.
    have further {between : Consumption} (split : trace = between ++ acknowledging :: rest) :
        ∃ before other after, handling :: handlings = before ++ other :: after ∧
          other.acknowledges delivery = true ∧
          handling.trace ++ relayed between = settling (before ++ [other]) := by
      obtain ⟨before, other, after, rfl, acknowledges, same⟩ := ih split
      exact ⟨handling :: before, other, after, rfl, acknowledges, by simp [same]⟩
    rcases front with _ | ⟨event, front⟩
    · cases split
    · obtain ⟨rfl, same⟩ := List.cons.inj split
      obtain ⟨between, rfl, found⟩ := cut_right ((List.append_assoc ..).symm.trans same)
      rw [relayed_arriving, relayed_append, relayed_right]
      rw [Handling.receipt_eq] at found
      split at found
      · rename_i acknowledges
        rcases between with _ | ⟨event, between⟩
        · exact ⟨[], handling, handlings, rfl, acknowledges, by simp [relayed]⟩
        · obtain ⟨rfl, remaining⟩ := List.cons.inj found
          have later := further remaining
          exact later
      · exact further found

theorem Handling.Sound.afterAll_eq (sound : handling.Sound) (unsettled : handling.settled = false) :
    store.afterAll handling.trace = store := by
  rcases Proof.settlePayload_cases sound with ⟨result, -, settled⟩ | ⟨-, nothing, -⟩
  · apply settled.afterAll_of_unmoved
    intro status moved
    rw [Handling.settled, moved] at unsettled
    cases unsettled
  · rw [nothing]
    rfl

def Handling.Leaves (handling : Handling) (store : Proof.Store) (status : ProofStatus) : Prop :=
  ∃ result record, ProvingResult.ofPayload? handling.payload = some result ∧
    store.get? result.hash = some record ∧ record.status = status

/-- A message that is reported as done or as an error has left a record of that status. -/
theorem Handling.Sound.leaves (sound : handling.Sound) (status : ProofStatus)
    (reported : handling.ended = .ok (.ofStatus status)) (final : status ≠ .inProcessing)
    (kept : Proof.Store.Kept Proof.Store.mayAnswer store handling.trace) :
    handling.Leaves (store.afterAll handling.trace) status := by
  rcases Proof.settlePayload_cases sound with ⟨result, parsed, settled⟩ | ⟨-, -, failed⟩
  · rw [reported] at settled
    obtain ⟨record, found, same⟩ := Option.map_eq_some_iff.mp (settled.status_eq final kept)
    exact ⟨result, record, parsed, found, same⟩
  · rw [reported] at failed
    cases failed

def messages (trace : Consumption) : List Bytes := (receipts trace).map Prod.fst

theorem Consumed.messages_eq (consumed : Consumed delivery fuel handlings trace outcome) :
    messages trace = handlings.map Handling.payload := by
  rw [messages, consumed.receipts_eq, List.map_map]
  rfl

/-- However messages are delivered, they are settled one after another. -/
theorem runs_deliver (sound : ∀ handling ∈ handlings, handling.Sound) :
    (Proof.deliver (handlings.map Handling.payload)).Runs (settling handlings) (some ()) := by
  induction handlings with
  | nil => exact .done ()
  | cons handling handlings ih =>
    obtain ⟨first, later⟩ := List.forall_mem_cons.mp sound
    rw [settling_cons]
    exact first.bind (ih later)

theorem Consumed.deliver (consumed : Consumed delivery fuel handlings trace outcome) :
    (Proof.deliver (messages trace)).Runs (relayed trace) (some ()) := by
  rw [consumed.messages_eq, consumed.relayed_eq]
  exact runs_deliver consumed.sound

theorem Handling.lost_notMem_events (handling : Handling) (delivery : Delivery) :
    arriving .lost ∉ handling.events delivery := by
  intro member
  rcases List.mem_cons.mp member with came | member
  · cases came
  rcases List.mem_append.mp member with settles | confirms
  · obtain ⟨asked, -, came⟩ := List.mem_map.mp settles
    cases came
  · rw [Handling.receipt_eq] at confirms
    split at confirms
    · cases List.mem_singleton.mp confirms
    · cases confirms

/-- The same messages can be consumed with the other delivery, where none is lost on the way. -/
theorem Consumed.redelivered (consumed : Consumed delivery fuel handlings trace outcome)
    (other : Delivery) :
    ∃ fuel' trace' outcome', Consumed other fuel' handlings trace' outcome' ∧
      arriving .lost ∉ trace' := by
  induction consumed with
  | exhausted => exact ⟨0, [], none, .exhausted, List.not_mem_nil⟩
  | closed fuel =>
    refine ⟨1, _, _, .closed 0, fun member => ?_⟩
    cases List.mem_singleton.mp member
  | cancelled fuel =>
    refine ⟨1, _, _, .cancelled 0, fun member => ?_⟩
    cases List.mem_singleton.mp member
  | lost later ih => exact ih
  | @handled fuel handling handlings trace outcome sound later ih =>
    obtain ⟨fuel', trace', outcome', consumed, none⟩ := ih
    refine ⟨fuel' + 1, _, outcome', .handled sound consumed, ?_⟩
    rw [List.mem_append, not_or]
    exact ⟨handling.lost_notMem_events other, none⟩

/-- Consumption at least once acknowledges exactly the messages that are done with. Every message is
settled once, in the order in which they come, and nothing that becomes of one stops the consumer. A
message is acknowledged if it was settled or its fault is a lasting one; one that is not has
changed no record, and one that is reported as done or as an error has left a record of that status
when it is acknowledged. Consumption at most once asks the same to settle the same messages, in
surroundings that go only by what happened before, so that it leaves the same records, submissions
and counters. -/
theorem consume_acknowledges (run : (consume .atLeastOnce fuel).Runs trace (some outcome))
    (kept : Proof.Store.Kept Proof.Store.mayAnswer store (relayed trace)) :
    ∃ handlings : List Handling,
      receipts trace =
        handlings.map (fun handling => (handling.payload, isSettled handling.ended)) ∧
      relayed trace = settling handlings ∧ (∀ handling ∈ handlings, handling.Sound) ∧
      Concluded .atLeastOnce fuel trace outcome ∧
      (∀ before handling after, handlings = before ++ handling :: after →
        isSettled handling.ended = false →
          store.afterAll (settling (before ++ [handling])) = store.afterAll (settling before)) ∧
      (∀ front rest, trace = front ++ acknowledging :: rest →
        ∃ before handling after, handlings = before ++ handling :: after ∧
          isSettled handling.ended = true ∧ relayed front = settling (before ++ [handling]) ∧
          (handling.ended = .ok .done → handling.Leaves (store.afterAll (relayed front)) .done) ∧
          (handling.ended = .ok .error →
            handling.Leaves (store.afterAll (relayed front)) .error)) ∧
      (∃ fuel' trace' outcome', (consume .atMostOnce fuel').Runs trace' (some outcome') ∧
        messages trace' = messages trace ∧ relayed trace' = relayed trace ∧
        arriving .lost ∉ trace') ∧
      ∀ fuel' trace' outcome', (consume .atMostOnce fuel').Runs trace' (some outcome') →
        messages trace' = messages trace → (relayed trace).Alike (relayed trace') →
          relayed trace' = relayed trace := by
  obtain ⟨handlings, consumed⟩ := consume_runs run
  refine ⟨handlings, consumed.receipts_eq, consumed.relayed_eq, consumed.sound,
    consumed.concluded, ?_, ?_, ?_, ?_⟩
  · rintro before handling after rfl unsettled
    have sound := consumed.sound handling (by simp)
    rw [settling_append, Proof.Store.afterAll_append, settling_cons, settling_nil,
      List.append_nil]
    exact sound.afterAll_eq unsettled
  · intro front rest split
    obtain ⟨before, handling, after, rfl, acknowledges, same⟩ :=
      consumed.before_acknowledging split
    have sound := consumed.sound handling (by simp)
    have answered : Proof.Store.Kept Proof.Store.mayAnswer (store.afterAll (settling before))
        handling.trace := by
      rw [consumed.relayed_eq, settling_append, settling_cons] at kept
      exact (Proof.Store.kept_append.mp (Proof.Store.kept_append.mp kept).2).1
    have left : store.afterAll (relayed front) =
        (store.afterAll (settling before)).afterAll handling.trace := by
      rw [same]
      simp
    rw [left]
    refine ⟨before, handling, after, rfl, acknowledges, same, ?_, ?_⟩
    · exact fun reported => sound.leaves .done reported (by decide) answered
    · exact fun reported => sound.leaves .error reported (by decide) answered
  · obtain ⟨fuel', trace', outcome', other, none⟩ := consumed.redelivered .atMostOnce
    refine ⟨fuel', trace', outcome', other.runs, ?_, ?_, none⟩
    · rw [other.messages_eq, consumed.messages_eq]
    · rw [other.relayed_eq, consumed.relayed_eq]
  · intro fuel' trace' outcome' run' same alike
    obtain ⟨handlings', other⟩ := consume_runs run'
    have delivers := other.deliver
    rw [same] at delivers
    exact (Program.runs_unique consumed.deliver delivers alike).1.symm

def underWay : ProofRecord := ⟨"H9", 9, "H3", 0, .inProcessing, 0⟩

def proved : Bytes :=
  Utf8.encode ("\x7b\"currentBlockHash\":\"H9\",\"journal\":\"0x01\"," ++
    "\"proof\":\"0x02\",\"status\":\"OK\"\x7d")

/-- What is asked to settle it, up to the mark. -/
def accepted : Trace relaying :=
  [⟨.note (.resultReceived .ok), some ()⟩,
    ⟨.fetch "H9", some (.ok (some underWay))⟩,
    ⟨.submit "0x01" "0x02", some (.ok ())⟩,
    ⟨.note (.submitted true), some ()⟩]

def unmarked : Trace relaying :=
  accepted ++ [⟨.mark "H9" .done, some (.error ⟨.storage, "timeout"⟩)⟩]

def marked : Trace relaying :=
  accepted ++ [⟨.mark "H9" .done, some (.ok { underWay with status := .done })⟩,
    ⟨.note (.moved .done), some ()⟩]

/-- A proof that is accepted while its record cannot be marked, and comes again, and a message that
cannot be read. -/
def markedLate : Consumption :=
  arriving (.message proved) :: (unmarked.map Event.right ++
    arriving (.message proved) :: (marked.map Event.right ++
      [acknowledging, arriving .lost, arriving (.message [0]), acknowledging, arriving .closed]))

theorem consume_acknowledges_markedLate :
    (consume .atLeastOnce 9).Runs markedLate
      (some (some (.error ⟨.bus, "Result consumer closed"⟩))) ∧
    Proof.Store.Kept Proof.Store.mayAnswer (Proof.Store.empty.put underWay) (relayed markedLate) ∧
    ∃ handlings : List Handling,
      handlings.map (fun handling => (handling.payload, isSettled handling.ended)) =
        [(proved, false), (proved, true), ([0], true)] ∧
      relayed markedLate = settling handlings ∧
      ∃ fuel' trace' outcome', (consume .atMostOnce fuel').Runs trace' (some outcome') ∧
        messages trace' = messages markedLate ∧ relayed trace' = relayed markedLate := by
  have run : (consume .atLeastOnce 9).Runs markedLate
      (some (some (.error ⟨.bus, "Result consumer closed"⟩))) :=
    Program.runs_of_replay? (by decide +kernel)
  have kept : Proof.Store.Kept Proof.Store.mayAnswer (Proof.Store.empty.put underWay)
      (relayed markedLate) := by decide +kernel
  obtain ⟨handlings, acknowledged, settles, -, -, -, -, ⟨fuel', trace', outcome', other⟩, -⟩ :=
    consume_acknowledges run kept
  have came : receipts markedLate = [(proved, false), (proved, true), ([0], true)] := rfl
  refine ⟨run, kept, handlings, acknowledged.symm.trans came, settles, fuel', trace', outcome', ?_⟩
  exact ⟨other.1, other.2.1, other.2.2.1⟩

end Bus.Consumer

end HeaderRelay
