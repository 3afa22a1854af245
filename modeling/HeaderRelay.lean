import HeaderRelay.Bus.Acknowledgement
import HeaderRelay.Bus.Consumer
import HeaderRelay.Bus.Publisher
import HeaderRelay.Bus.Server
import HeaderRelay.Bus.Session
import HeaderRelay.Bus.Settings
import HeaderRelay.Chain.Block
import HeaderRelay.Document.Content
import HeaderRelay.Document.Form
import HeaderRelay.Document.Shape
import HeaderRelay.Document.View
import HeaderRelay.Epoch.Advance
import HeaderRelay.Epoch.Anchors
import HeaderRelay.Epoch.Boundary
import HeaderRelay.Epoch.Loop
import HeaderRelay.Epoch.Prover
import HeaderRelay.Fault
import HeaderRelay.Http.Reply
import HeaderRelay.Http.Status
import HeaderRelay.Json.Basic
import HeaderRelay.Json.Numeral
import HeaderRelay.Json.Placed
import HeaderRelay.Json.Printer
import HeaderRelay.Json.Reader
import HeaderRelay.Json.Text
import HeaderRelay.Json.View
import HeaderRelay.Launch.Plan
import HeaderRelay.Launch.Supervision
import HeaderRelay.Ledger.Abi
import HeaderRelay.Ledger.Contract
import HeaderRelay.Ledger.Hash
import HeaderRelay.Ledger.Signer
import HeaderRelay.Main
import HeaderRelay.Node.Lookup
import HeaderRelay.Node.Rpc
import HeaderRelay.Node.Selection
import HeaderRelay.Number.Binary64
import HeaderRelay.Number.Decimal
import HeaderRelay.Number.Literal
import HeaderRelay.Number.Nearest
import HeaderRelay.Number.Radix
import HeaderRelay.Number.Shortest
import HeaderRelay.Proof.Record
import HeaderRelay.Proof.Result
import HeaderRelay.Proof.Service
import HeaderRelay.Proof.Settlement
import HeaderRelay.Proof.Store
import HeaderRelay.Proof.Task
import HeaderRelay.Proofs.Acceptance
import HeaderRelay.Proofs.Boundary
import HeaderRelay.Proofs.Caution
import HeaderRelay.Proofs.Finality
import HeaderRelay.Proofs.Interleaving
import HeaderRelay.Proofs.Iteration
import HeaderRelay.Proofs.Lineage
import HeaderRelay.Proofs.Lists
import HeaderRelay.Proofs.Lookup
import HeaderRelay.Proofs.Progression
import HeaderRelay.Proofs.Register
import HeaderRelay.Proofs.Safety
import HeaderRelay.Proofs.Trace
import HeaderRelay.Proofs.Window
import HeaderRelay.Relay.Action
import HeaderRelay.Relay.Metrics
import HeaderRelay.Relay.Note
import HeaderRelay.Relay.Program
import HeaderRelay.Retry.Document
import HeaderRelay.Retry.Policy
import HeaderRelay.Retry.Schedule
import HeaderRelay.Server.MediaType
import HeaderRelay.Server.Payload
import HeaderRelay.Server.Query
import HeaderRelay.Server.Respond
import HeaderRelay.Server.Target
import HeaderRelay.Settings.Basic
import HeaderRelay.Settings.Check
import HeaderRelay.Settings.Document
import HeaderRelay.Settings.File
import HeaderRelay.Settings.Format
import HeaderRelay.Simulation.Bus
import HeaderRelay.Simulation.Chain
import HeaderRelay.Simulation.ContractNode
import HeaderRelay.Simulation.Launch
import HeaderRelay.Simulation.Rehearsal
import HeaderRelay.Simulation.Site
import HeaderRelay.Simulation.World
import HeaderRelay.Text.Base58
import HeaderRelay.Text.Blank
import HeaderRelay.Text.Hex
import HeaderRelay.Text.Percent
import HeaderRelay.Text.Punycode
import HeaderRelay.Text.Quoted
import HeaderRelay.Text.Utf16
import HeaderRelay.Text.Utf8
import HeaderRelay.Unicode.Composition
import HeaderRelay.Unicode.Direction
import HeaderRelay.Unicode.Folding
import HeaderRelay.Unicode.Hidden
import HeaderRelay.Unicode.Joining
import HeaderRelay.Unicode.Marks
import HeaderRelay.Unicode.Runs
import HeaderRelay.Url.Address
import HeaderRelay.Url.Basic
import HeaderRelay.Url.Domain
import HeaderRelay.Url.Target
import HeaderRelay.Wire.Bus
import HeaderRelay.Wire.Chain
import HeaderRelay.Wire.Proof
import HeaderRelay.Yaml.Anchor
import HeaderRelay.Yaml.Cursor
import HeaderRelay.Yaml.Layout
import HeaderRelay.Yaml.Node
import HeaderRelay.Yaml.Placed
import HeaderRelay.Yaml.Scalar
import HeaderRelay.Yaml.Tag
import HeaderRelay.Yaml.Token
import HeaderRelay.Yaml.Value
import HeaderRelay.Proofs.Resumption
import HeaderRelay.Proofs.Anchors
import HeaderRelay.Proofs.Selection
import HeaderRelay.Proofs.Delivery
import HeaderRelay.Proofs.Retention
import HeaderRelay.Proofs.Bookkeeping
import HeaderRelay.Proofs.Settling
import HeaderRelay.Proofs.Balance
import HeaderRelay.Proofs.Custody
import HeaderRelay.Proofs.Attendance
import HeaderRelay.Proofs.Persistence
import HeaderRelay.Proofs.Acknowledging
import HeaderRelay.Proofs.Encoding
import HeaderRelay.Proofs.Numerals
import HeaderRelay.Proofs.Quotation
import HeaderRelay.Proofs.Spelling
import HeaderRelay.Proofs.Wire
import HeaderRelay.Proofs.Canonicity
import HeaderRelay.Proofs.Checkpointing
import HeaderRelay.Proofs.Components
import HeaderRelay.Proofs.Supervision
import HeaderRelay.Proofs.Rounding
import HeaderRelay.Proofs.Shortest
import HeaderRelay.Proofs.Legibility
import HeaderRelay.Proofs.Loading
import HeaderRelay.Proofs.Saving
import HeaderRelay.Proofs.Failover
import HeaderRelay.Proofs.Probing
import HeaderRelay.Proofs.Descent
import HeaderRelay.Proofs.Dispatching
import HeaderRelay.Proofs.Grammar
import HeaderRelay.Proofs.Records
import HeaderRelay.Proofs.Transaction
import HeaderRelay.Proofs.Inclusion
import HeaderRelay.Proofs.Hexadecimal
import HeaderRelay.Proofs.Calldata
import HeaderRelay.Proofs.Payloads
import HeaderRelay.Proofs.Answering
import HeaderRelay.Proofs.Denotation
import HeaderRelay.Proofs.Delays
import HeaderRelay.Proofs.Preparation
import HeaderRelay.Proofs.Publishing
import HeaderRelay.Proofs.Admission
import HeaderRelay.Proofs.Traffic
