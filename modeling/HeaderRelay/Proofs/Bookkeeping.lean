import HeaderRelay.Proofs.Interleaving

set_option autoImplicit false

namespace HeaderRelay

/-- Whether a question to the keeper of the records failed. -/
def Event.unkept : Event relaying → Bool
  | ⟨.fetch _, some (.error _)⟩ => true
  | ⟨.save _, some (.error _)⟩ => true
  | ⟨.mark _ _, some (.error _)⟩ => true
  | _ => false

namespace Proof.Store

/-- The records after a question. -/
def after (store : Store) : Event relaying → Store
  | ⟨.save record, some (.ok _)⟩ => store.put record
  | ⟨.mark hash status, some (.ok _)⟩ =>
      match store.mark hash status with
      | .ok (_, marked) => marked
      | .error _ => store
  | _ => store

/-- The records after a row of questions. -/
def afterAll (store : Store) (trace : Trace relaying) : Store := trace.foldl after store

/-- Whether an answer is the one that records in memory give. -/
def answers (store : Store) : Event relaying → Bool
  | ⟨.fetch hash, some (.ok found)⟩ => found = store.get? hash
  | ⟨.fetch _, some (.error _)⟩ => false
  | ⟨.save _, some (.error _)⟩ => false
  | ⟨.mark hash status, some (.ok record)⟩ =>
      match store.mark hash status with
      | .ok (marked, _) => record = marked
      | .error _ => false
  | ⟨.mark hash status, some (.error fault)⟩ =>
      match store.mark hash status with
      | .ok _ => false
      | .error missing => fault = missing
  | _ => true

/-- Whether an answer is one of a keeper that may fail. -/
def mayAnswer (store : Store) (event : Event relaying) : Bool :=
  event.unkept || store.answers event

/-- Every question of a row got an answer that fits the records as they were then. -/
def Kept (fits : Store → Event relaying → Bool) : Store → Trace relaying → Prop
  | _, [] => True
  | store, event :: trace => fits store event = true ∧ Kept fits (store.after event) trace

instance decidableKept (fits : Store → Event relaying → Bool) :
    (store : Store) → (trace : Trace relaying) → Decidable (Kept fits store trace)
  | _, [] => .isTrue trivial
  | store, event :: trace =>
      have := decidableKept fits (store.after event) trace
      inferInstanceAs (Decidable (_ ∧ _))

def Keyed (store : Store) : Prop :=
  ∀ hash record, store.get? hash = some record → record.hash = hash

variable {store : Store} {event : Event relaying} {trace first second : Trace relaying}
  {fits : Store → Event relaying → Bool} {hash : String} {status : ProofStatus}
  {record : ProofRecord}

@[simp] theorem afterAll_nil : store.afterAll [] = store := rfl

@[simp] theorem afterAll_cons :
    store.afterAll (event :: trace) = (store.after event).afterAll trace := rfl

@[simp] theorem afterAll_append :
    store.afterAll (first ++ second) = (store.afterAll first).afterAll second :=
  List.foldl_append

theorem kept_append :
    Kept fits store (first ++ second) ↔
      Kept fits store first ∧ Kept fits (store.afterAll first) second := by
  induction first generalizing store with
  | nil => simp [Kept]
  | cons event first ih => simp [Kept, ih, and_assoc]

/-- What a keeper answers in the middle of a row fits the records that the row before leaves. -/
theorem Kept.fits_of_mid (kept : Kept fits store (first ++ event :: second)) :
    fits (store.afterAll first) event = true :=
  (kept_append.mp kept).2.1

/-- Marking gives a record its status and leaves all others as they are. -/
theorem mark_of_get? (found : store.get? hash = some record) (status : ProofStatus) :
    ∃ marked, store.mark hash status = .ok ({ record with status := status }, marked) ∧
      ∀ other, marked.get? other =
        if other = hash then some { record with status := status } else store.get? other := by
  have marks : store.mark hash status = .ok ({ record with status := status },
      ⟨replace hash { record with status := status } store.records⟩) := by
    simp only [mark, found]
  exact ⟨_, marks, fun other => (Interleaving.get?_mark other marks).2⟩

/-- A question leaves the records as they are, or a record is put, or one that is there is
marked. -/
theorem after_cases (store : Store) (event : Event relaying) :
    store.after event = store ∨
    (∃ record, event = ⟨.save record, some (.ok ())⟩ ∧ store.after event = store.put record) ∨
    ∃ hash status marked record, event = ⟨.mark hash status, some (.ok marked)⟩ ∧
      store.get? hash = some record ∧
      ∀ other, (store.after event).get? other =
        if other = hash then some { record with status := status } else store.get? other := by
  unfold after
  split
  · rename_i record reply
    exact .inr (.inl ⟨record, rfl, rfl⟩)
  · rename_i hash status marked
    cases found : store.get? hash with
    | none => exact .inl (by simp only [mark, found])
    | some record =>
      obtain ⟨next, marks, get?⟩ := mark_of_get? found status
      refine .inr (.inr ⟨hash, status, marked, record, rfl, found, ?_⟩)
      simpa only [marks] using get?
  · exact .inl rfl

/-- The record of a hash stays the same, or it is written. -/
theorem get?_after (store : Store) (event : Event relaying) (hash : String) :
    (store.after event).get? hash = store.get? hash ∨
      ∃ record, event.call.writes = some (hash, record.status) ∧
        (store.after event).get? hash = some record := by
  rcases store.after_cases event with
    same | ⟨record, rfl, put⟩ | ⟨key, status, marked, record, rfl, found, get?⟩
  · exact .inl (by rw [same])
  · by_cases same : hash = record.hash
    · exact .inr ⟨record, by rw [same]; rfl, by rw [put, get?_put, if_pos same]⟩
    · exact .inl (by rw [put, get?_put, if_neg same])
  · by_cases same : hash = key
    · exact .inr ⟨{ record with status := status }, by rw [same]; rfl, by rw [get?, if_pos same]⟩
    · exact .inl (by rw [get?, if_neg same])

theorem isSome_get?_after (there : (store.get? hash).isSome) :
    ((store.after event).get? hash).isSome := by
  rcases store.get?_after event hash with same | ⟨record, -, written⟩
  · rw [same]
    exact there
  · rw [written]
    rfl

theorem isSome_get?_afterAll (there : (store.get? hash).isSome) :
    ((store.afterAll trace).get? hash).isSome := by
  induction trace generalizing store with
  | nil => exact there
  | cons event trace ih => exact ih (isSome_get?_after there)

theorem Keyed.after (keyed : store.Keyed) : (store.after event).Keyed := by
  intro hash record found
  rcases store.after_cases event with
    same | ⟨saved, -, put⟩ | ⟨key, status, marked, old, -, there, get?⟩
  · rw [same] at found
    exact keyed hash record found
  · rw [put, get?_put] at found
    split at found
    · rename_i same
      cases found
      exact same.symm
    · exact keyed hash record found
  · rw [get?] at found
    split at found
    · rename_i same
      cases found
      rw [same]
      exact keyed key old there
    · exact keyed hash record found

theorem Keyed.afterAll (keyed : store.Keyed) : (store.afterAll trace).Keyed := by
  induction trace generalizing store with
  | nil => exact keyed
  | cons event trace ih => exact ih keyed.after

theorem keyed_empty : empty.Keyed := by
  rintro hash record ⟨⟩

theorem fetched {reply : Except Fault (Option ProofRecord)}
    (answered : store.answers ⟨.fetch hash, some reply⟩ = true) :
    reply = .ok (store.get? hash) := by
  cases reply with
  | ok found =>
    have same : found = store.get? hash := of_decide_eq_true answered
    rw [same]
  | error fault => cases answered

theorem marked {reply : Except Fault ProofRecord} (there : store.get? hash = some record)
    (answered : store.answers ⟨.mark hash status, some reply⟩ = true) :
    reply = .ok { record with status := status } := by
  obtain ⟨next, marks, -⟩ := mark_of_get? there status
  cases reply with
  | ok found =>
    simp only [answers, marks] at answered
    rw [of_decide_eq_true answered]
  | error fault =>
    simp only [answers, marks] at answered
    cases answered

/-- Whoever keeps the records, one that was marked has its status. -/
theorem get?_after_mark {marked : ProofRecord}
    (answered : store.mayAnswer ⟨.mark hash status, some (.ok marked)⟩ = true) :
    ∃ record, store.get? hash = some record ∧
      (store.after ⟨.mark hash status, some (.ok marked)⟩).get? hash =
        some { record with status := status } := by
  change store.answers ⟨.mark hash status, some (.ok marked)⟩ = true at answered
  cases found : store.get? hash with
  | none =>
    simp only [answers, mark, found] at answered
    cases answered
  | some record =>
    obtain ⟨next, marks, get?⟩ := mark_of_get? found status
    refine ⟨record, rfl, ?_⟩
    simp only [after, marks, get?, if_true]

end Proof.Store

end HeaderRelay
