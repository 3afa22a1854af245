import HeaderRelay.Document.View
import HeaderRelay.Retry.Document
import HeaderRelay.Settings.Basic

set_option autoImplicit false

namespace HeaderRelay

open Document (text? natural? naturalUpTo? optional? recordOf? choice?)

namespace ChainSettings

def fields : List String :=
  ["primary-rpc-url", "archival-rpc-url", "epoch-length", "archival-retention-epochs",
    "max-boundary-drift", "rpc-timeout-secs"]

def toJson (s : ChainSettings) : Json :=
  .record [("primary-rpc-url", .text s.primaryUrl), ("archival-rpc-url", .text s.archivalUrl),
    ("epoch-length", .nat s.epochLength), ("archival-retention-epochs", .nat s.retentionEpochs),
    ("max-boundary-drift", .nat s.maxDrift), ("rpc-timeout-secs", .nat s.timeout)]

def read? {α : Type} [Document α] (a : α) : Option ChainSettings := do
  let form ← recordOf? a fields
  let primaryUrl ← (form.field 0 "primary-rpc-url").required text?
  let archivalUrl ← (form.field 1 "archival-rpc-url").required text?
  let epochLength ← (form.field 2 "epoch-length").defaulted defaultEpochLength natural?
  let retentionEpochs ←
    (form.field 3 "archival-retention-epochs").defaulted defaultRetentionEpochs natural?
  let maxDrift ← (form.field 4 "max-boundary-drift").defaulted defaultMaxDrift natural?
  let timeout ← (form.field 5 "rpc-timeout-secs").defaulted defaultTimeout natural?
  return ⟨primaryUrl, archivalUrl, epochLength, retentionEpochs, maxDrift, timeout⟩

end ChainSettings

namespace LedgerSettings

def fields : List String := ["eth-rpc-url", "ledger-address", "ledger-key-path", "chain-id"]

/-- The chain id is left out where none is prescribed. -/
def toJson (s : LedgerSettings) : Json :=
  .record ([("eth-rpc-url", .text s.url), ("ledger-address", .text s.address),
    ("ledger-key-path", .text s.keyPath)] ++
    (match s.chainId with
    | some id => [("chain-id", .nat id)]
    | none => []))

def read? {α : Type} [Document α] (a : α) : Option LedgerSettings := do
  let form ← recordOf? a fields
  let url ← (form.field 0 "eth-rpc-url").required text?
  let address ← (form.field 1 "ledger-address").required text?
  let keyPath ← (form.field 2 "ledger-key-path").required text?
  let chainId ← (form.field 3 "chain-id").defaulted none (optional? natural?)
  return ⟨url, address, keyPath, chainId⟩

end LedgerSettings

namespace Bus

def Delivery.toJson (d : Delivery) : Json := .text d.word

namespace Settings

def fields : List String :=
  ["nats-url", "task-subject", "task-stream", "result-subject", "result-stream",
    "result-delivery", "result-consumer", "reconnect-delay-secs"]

def toJson (s : Settings) : Json :=
  .record [("nats-url", .text s.url), ("task-subject", .text s.taskSubject),
    ("task-stream", .text s.taskStream), ("result-subject", .text s.resultSubject),
    ("result-stream", .text s.resultStream), ("result-delivery", s.delivery.toJson),
    ("result-consumer", .text s.resultConsumer), ("reconnect-delay-secs", .nat s.reconnectDelay)]

def read? {α : Type} [Document α] (a : α) : Option Settings := do
  let form ← recordOf? a fields
  let url ← (form.field 0 "nats-url").required text?
  let taskSubject ← (form.field 1 "task-subject").defaulted defaultTaskSubject text?
  let taskStream ← (form.field 2 "task-stream").defaulted defaultTaskStream text?
  let resultSubject ← (form.field 3 "result-subject").defaulted defaultResultSubject text?
  let resultStream ← (form.field 4 "result-stream").defaulted defaultResultStream text?
  let delivery ←
    (form.field 5 "result-delivery").defaulted .atMostOnce (choice? Delivery.ofWord?)
  let resultConsumer ← (form.field 6 "result-consumer").defaulted defaultResultConsumer text?
  let reconnectDelay ←
    (form.field 7 "reconnect-delay-secs").defaulted defaultReconnectDelay natural?
  return {
    url, taskSubject, taskStream, resultSubject, resultStream, delivery, resultConsumer,
    reconnectDelay }

end Settings

end Bus

namespace ProverSettings

def fields : List String := ["epoch-prover-url", "request-timeout-secs"]

def toJson (s : ProverSettings) : Json :=
  .record [("epoch-prover-url", .text s.url), ("request-timeout-secs", .nat s.timeout)]

def read? {α : Type} [Document α] (a : α) : Option ProverSettings := do
  let form ← recordOf? a fields
  let url ← (form.field 0 "epoch-prover-url").required text?
  let timeout ← (form.field 1 "request-timeout-secs").defaulted defaultTimeout natural?
  return ⟨url, timeout⟩

end ProverSettings

namespace Settings

def fields : List String := ["server-listen-port", "near", "eth", "bus", "prover", "retry"]

def shape : Shape :=
  let leaves := fun (names : List String) => Shape.record (names.map (·, .leaf))
  .record [("server-listen-port", .leaf), ("near", leaves ChainSettings.fields),
    ("eth", leaves LedgerSettings.fields), ("bus", leaves Bus.Settings.fields),
    ("prover", leaves ProverSettings.fields), ("retry", Retry.Policy.shape)]

def greatestPort : Nat := 65535

def toJson (s : Settings) : Json :=
  .record [("server-listen-port", .nat s.port), ("near", s.chain.toJson), ("eth", s.ledger.toJson),
    ("bus", s.bus.toJson), ("prover", s.prover.toJson), ("retry", s.retry.toJson)]

def read? {α : Type} [Document α] (a : α) : Option Settings := do
  let form ← recordOf? a fields
  let port ← (form.field 0 "server-listen-port").required (naturalUpTo? greatestPort)
  let chain ← (form.field 1 "near").required ChainSettings.read?
  let ledger ← (form.field 2 "eth").required LedgerSettings.read?
  let bus ← (form.field 3 "bus").required Bus.Settings.read?
  let prover ← (form.field 4 "prover").required ProverSettings.read?
  let retry ← (form.field 5 "retry").defaulted .standard Retry.Policy.read?
  return ⟨port, chain, ledger, bus, prover, retry⟩

end Settings

end HeaderRelay
