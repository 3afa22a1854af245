import HeaderRelay.Bus.Settings
import HeaderRelay.Retry.Policy

set_option autoImplicit false

namespace HeaderRelay

/-- How the followed chain is reached and searched. -/
structure ChainSettings where
  primaryUrl : String
  archivalUrl : String
  epochLength : Nat
  retentionEpochs : Nat
  maxDrift : Nat
  /-- Seconds. -/
  timeout : Nat
  deriving DecidableEq, Repr

structure LedgerSettings where
  url : String
  address : String
  /-- The file with the signing key. -/
  keyPath : String
  /-- The chain id that the node must report, if it is prescribed. -/
  chainId : Option Nat
  deriving DecidableEq, Repr

/-- How the prover of epochs is reached. -/
structure ProverSettings where
  url : String
  /-- Seconds. -/
  timeout : Nat
  deriving DecidableEq, Repr

structure Settings where
  /-- The port of the HTTP interface. -/
  port : Nat
  chain : ChainSettings
  ledger : LedgerSettings
  bus : Bus.Settings
  prover : ProverSettings
  retry : Retry.Policy
  deriving DecidableEq, Repr

namespace ChainSettings

def defaultEpochLength : Nat := 43200
def defaultRetentionEpochs : Nat := 3
def defaultMaxDrift : Nat := 20
def defaultTimeout : Nat := 30

end ChainSettings

def ProverSettings.defaultTimeout : Nat := 600

end HeaderRelay
