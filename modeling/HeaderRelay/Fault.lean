set_option autoImplicit false

namespace HeaderRelay

inductive Fault.Kind
  | invalidArgument
  | parse
  | internal
  | unexpected
  | unknownBlock
  | notSynced
  | blockNotProduced
  | ledger
  | bus
  | prover
  | storage
  deriving DecidableEq, Repr

/-- A fault: its kind and what happened. -/
structure Fault where
  kind : Fault.Kind
  detail : String
  deriving DecidableEq, Repr

namespace Fault.Kind

/-- The label of a kind in counters and answers. -/
def label : Kind → String
  | .invalidArgument => "invalid_argument"
  | .parse => "parse_error"
  | .internal => "internal_error"
  | .unexpected => "unexpected_error"
  | .unknownBlock => "unknown_block"
  | .notSynced => "not_synced_yet"
  | .blockNotProduced => "block_not_produced"
  | .ledger => "ledger_error"
  | .bus => "bus_error"
  | .prover => "prover_error"
  | .storage => "storage_error"

/-- What stands before the detail. -/
def heading : Kind → String
  | .invalidArgument => "Invalid argument"
  | .parse => "Parse error"
  | .internal => "Internal error"
  | .unexpected => "Unexpected error"
  | .unknownBlock => "Unknown block"
  | .notSynced => "Node is not synced yet"
  | .blockNotProduced => "Block not produced yet"
  | .ledger => "Ledger error"
  | .bus => "Bus error"
  | .prover => "Prover error"
  | .storage => "Storage error"

/-- Whether the same action may succeed later without anybody stepping in. -/
def isTransient : Kind → Bool
  | .invalidArgument => false
  | .parse => false
  | .unknownBlock => false
  | _ => true

def all : List Kind :=
  [.invalidArgument, .parse, .internal, .unexpected, .unknownBlock, .notSynced,
    .blockNotProduced, .ledger, .bus, .prover, .storage]

def ofLabel? (label : String) : Option Kind := all.find? fun kind => kind.label == label

/-- No two kinds share a label. -/
theorem ofLabel?_label (kind : Kind) : ofLabel? kind.label = some kind := by
  cases kind <;> decide

end Fault.Kind

namespace Fault

def message (fault : Fault) : String := fault.kind.heading ++ ": " ++ fault.detail

def isTransient (fault : Fault) : Bool := fault.kind.isTransient

end Fault

section Results

variable {ε α β : Type} {first : Except ε α} {next : α → Except ε β}

theorem exists_of_bind_ok {b : β} (run : first >>= next = .ok b) :
    ∃ a, first = .ok a ∧ next a = .ok b := by
  cases first with
  | error e => cases run
  | ok a => exact ⟨a, rfl, run⟩

theorem error_of_bind {e : ε} (failed : first >>= next = .error e) :
    first = .error e ∨ ∃ a, first = .ok a ∧ next a = .error e := by
  cases first with
  | error other =>
    cases failed
    exact .inl rfl
  | ok a => exact .inr ⟨a, rfl, failed⟩

theorem toOption_eq_some_iff {a : α} : first.toOption = some a ↔ first = .ok a := by
  cases first <;> simp [Except.toOption]

end Results

end HeaderRelay
