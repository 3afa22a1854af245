import HeaderRelay.Bus.Server

set_option autoImplicit false

namespace HeaderRelay.Simulation

structure BusServer where
  /-- Whether it can be connected to. -/
  reachable : Bool
  /-- What it says when asked for a stream. -/
  stream : Bus.Finding
  /-- Whether streams can be created. -/
  creates : Bool
  /-- What it says when asked for a consumer. -/
  consumer : Bus.Finding
  /-- Whether consumers can be created. -/
  createsConsumers : Bool
  /-- What comes back for published messages, in order; without an entry they are acknowledged. -/
  receipts : List Bus.Receipt
  /-- Messages that are yet to arrive. -/
  messages : List Bytes
  /-- How many messages have arrived. -/
  arrived : Nat
  /-- After how many messages the delivery ends, if it does. -/
  closesAfter : Option Nat
  /-- What it was asked, the latest first. -/
  asked : List Bus.ServerCall
  /-- The numbers of the messages that were acknowledged, the latest first. -/
  acknowledged : List Nat

namespace BusServer

def acknowledging : Bytes := Utf8.encode "\x7b\"stream\":\"S\",\"seq\":1\x7d"

def arrive (s : BusServer) : Bus.Arrival × BusServer :=
  if s.closesAfter = some s.arrived then (.closed, s)
  else
    match s.messages with
    | [] => (.cancelled, s)
    | payload :: messages =>
        (.message payload, { s with messages, arrived := s.arrived + 1 })

def receipt (s : BusServer) : Bus.Receipt × BusServer :=
  match s.receipts with
  | [] => (.reply acknowledging, s)
  | receipt :: receipts => (receipt, { s with receipts })

/-- Answers a question without keeping it. -/
def reply : (call : Bus.ServerCall) → BusServer → call.Answer × BusServer
  | .connect _, s => (s.reachable, s)
  | .pause _, s => ((), s)
  | .findStream _, s => (s.stream, s)
  | .createStream _, s => (s.creates, s)
  | .findConsumer _ _, s => (s.consumer, s)
  | .createConsumer _ _, s => (s.createsConsumers, s)
  | .publish _ _, s => s.receipt
  | .subscribe _, s => (true, s)
  | .pull _ _, s => (true, s)
  | .next, s => s.arrive
  | .acknowledge, s => ((), { s with acknowledged := s.arrived :: s.acknowledged })

def answer (call : Bus.ServerCall) (s : BusServer) : call.Answer × BusServer :=
  reply call { s with asked := call :: s.asked }

/-- Answers a question, as one that might never be answered. -/
def answerAlways (call : Bus.ServerCall) (s : BusServer) : Option call.Answer × BusServer :=
  let (reply, s) := answer call s
  (some reply, s)

/-- The messages that were published, in order. -/
def published (s : BusServer) : List (String × String) :=
  s.asked.reverse.filterMap fun
    | .publish subject payload => some (subject, payload)
    | _ => none

end BusServer

end HeaderRelay.Simulation
