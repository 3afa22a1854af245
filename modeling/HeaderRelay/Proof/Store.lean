import HeaderRelay.Fault
import HeaderRelay.Proof.Record

set_option autoImplicit false

namespace HeaderRelay.Proof

structure Store where
  records : List (String × ProofRecord)
  deriving Repr

namespace Store

def empty : Store := ⟨[]⟩

def get? (store : Store) (hash : String) : Option ProofRecord := store.records.lookup hash

/-- Puts a record in the place of the first entry of its hash, or at the end. -/
def replace (hash : String) (record : ProofRecord) :
    List (String × ProofRecord) → List (String × ProofRecord)
  | [] => [(hash, record)]
  | (key, old) :: rest =>
      if hash = key then (hash, record) :: rest else (key, old) :: replace hash record rest

/-- Inserts a record, or replaces the one of the same hash. -/
def put (store : Store) (record : ProofRecord) : Store :=
  ⟨replace record.hash record store.records⟩

def mark (store : Store) (hash : String) (status : ProofStatus) :
    Except Fault (ProofRecord × Store) :=
  match store.get? hash with
  | none => .error ⟨.storage, "No proof record for " ++ hash⟩
  | some record =>
      let record := { record with status := status }
      .ok (record, ⟨replace hash record store.records⟩)

def size (store : Store) : Nat := store.records.length

theorem lookup_replace (hash other : String) (record : ProofRecord)
    (records : List (String × ProofRecord)) :
    (replace hash record records).lookup other =
      if other = hash then some record else records.lookup other := by
  induction records with
  | nil =>
    by_cases h : other = hash
    · simp [replace, h]
    · simp [replace, List.lookup_cons, h, beq_eq_false_iff_ne.2 h]
  | cons entry rest ih =>
    obtain ⟨key, old⟩ := entry
    unfold replace
    by_cases hk : hash = key
    · subst hk
      by_cases h : other = hash
      · simp [h]
      · simp [List.lookup_cons, h, beq_eq_false_iff_ne.2 h]
    · rw [if_neg hk]
      by_cases ho : other = key
      · subst ho
        have : other ≠ hash := fun h => hk h.symm
        simp [this]
      · simp [List.lookup_cons, beq_eq_false_iff_ne.2 ho, ih]

/-- A record that was put is found, and no other look-up changes. -/
theorem get?_put (store : Store) (record : ProofRecord) (hash : String) :
    (store.put record).get? hash =
      if hash = record.hash then some record else store.get? hash :=
  lookup_replace record.hash hash record store.records

end Store

end HeaderRelay.Proof
