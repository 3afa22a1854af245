import HeaderRelay.Http.Reply
import HeaderRelay.Wire.Proof

set_option autoImplicit false

namespace HeaderRelay.Epoch.Prover

/-- The address that tasks are posted to: the base without slashes at its end, and a path. -/
def address (base : String) : String :=
  String.ofList (base.toList.reverse.dropWhile (· == '/')).reverse ++ "/epoch/proof"

/-- The body of a reply that is not a success; one that breaks off counts as empty. -/
def refusal (status : Nat) (body : Bytes) : Fault :=
  ⟨.prover, "Epoch prover returned " ++ Http.statusText status ++ ": " ++ Http.bodyText body⟩

def result : Http.Reply → Except Fault EpochResult
  | .lost => .error ⟨.prover, "Epoch prover unreachable: *"⟩
  | .broken status =>
      if Http.isSuccess status then .error ⟨.internal, "*"⟩ else .error (refusal status [])
  | .complete status bytes =>
      let body := if Http.isBodiless status then [] else bytes
      if Http.isSuccess status then
        match (Json.ofBytes? body).bind EpochResult.ofJson? with
        | some result => .ok result
        | none => .error ⟨.parse, "*"⟩
      else .error (refusal status body)

end HeaderRelay.Epoch.Prover
