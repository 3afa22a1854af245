import HeaderRelay.Relay.Action
import HeaderRelay.Wire.Proof

set_option autoImplicit false

namespace HeaderRelay.Proof

/-- What a result did to its record. -/
inductive Settlement
  | done
  | error
  | skipped
  deriving DecidableEq, Repr

/-- Submits a proof and says which status its record gets. -/
def submission (result : BlockResult) : Action ProofStatus := do
  match ← (Action.submit result.journal result.proof).outcome with
  | .ok _ =>
      Action.note (.submitted true)
      return .done
  | .error _ =>
      Action.note (.submitted false)
      return .error

/-- The status that a result leads to, if it leads to any. -/
def verdict (result : ProvingResult) : Action (Option ProofStatus) :=
  match result.status, result with
  | .ok, .block result => do return some (← submission result)
  | .ok, .epoch _ => return none
  | .error, _ => return some .error

/-- Settles a result. One without a record, or whose record is done, is skipped; so is a
successful epoch result, which the epoch loop commits itself. -/
def settle (result : ProvingResult) : Action Settlement := do
  Action.note (.resultReceived result.status)
  match ← Action.fetch result.hash with
  | none => return .skipped
  | some record =>
      if record.status = .done then return .skipped
      else
        match ← verdict result with
        | none => return .skipped
        | some status =>
            let _ ← Action.mark result.hash status
            Action.note (.moved status)
            return if status = .done then .done else .error

def settlePayload (payload : Bytes) : Action Settlement :=
  match ProvingResult.ofPayload? payload with
  | some result => settle result
  | none => Action.fail ⟨.parse, "*"⟩

end HeaderRelay.Proof
