import HeaderRelay.Epoch.Advance
import HeaderRelay.Epoch.Prover
import HeaderRelay.Ledger.Signer
import HeaderRelay.Settings.Check

set_option autoImplicit false

namespace HeaderRelay.Launch

/-- All that a relay is started with. -/
structure Plan where
  /-- The port of the HTTP interface. -/
  port : Nat
  primaryUrl : String
  archivalUrl : String
  /-- The address of the contract. -/
  contract : Bytes
  /-- Where tasks for the prover are posted. -/
  proverUrl : String
  bus : Bus.Settings
  rules : Epoch.Rules
  retry : Retry.Policy
  deriving DecidableEq, Repr

inductive Defect
  | settings (defect : Settings.Defect)
  | signer (defect : Ledger.SignerDefect)
  deriving DecidableEq, Repr

def Defect.message : Defect → String
  | .settings defect => defect.message
  | .signer defect => defect.message

abbrev Step (α : Type) := ExceptT Defect (Program Ledger.contractNode) α

/-- A step that only looks at settings. -/
def Step.ofSettings {α : Type} (outcome : Except Settings.Defect α) : Step α :=
  ExceptT.mk (.done (outcome.mapError .settings))

def Step.ofSigning {α : Type} (signing : Ledger.Signing α) : Step α :=
  ExceptT.mk (do return (← signing.run).mapError .signer)

def rules (s : ChainSettings) : Epoch.Rules :=
  ⟨⟨s.epochLength, s.retentionEpochs⟩, ⟨s.epochLength, s.maxDrift⟩⟩

/-- Checks settings, given the files that there are. -/
def prepare (s : Settings) (files : String → Option Bytes) : Step Plan := do
  Step.ofSettings s.check
  let key ←
    Step.ofSigning (ExceptT.mk (.done (Ledger.readKey s.ledger.keyPath (files s.ledger.keyPath))))
  let _ ← Step.ofSigning (Ledger.connect s.ledger.url key s.ledger.chainId)
  let contract ← Step.ofSettings s.address
  return {
    port := s.port, primaryUrl := s.chain.primaryUrl, archivalUrl := s.chain.archivalUrl, contract
    proverUrl := Epoch.Prover.address s.prover.url, bus := s.bus, rules := rules s.chain
    retry := s.retry }

end HeaderRelay.Launch
