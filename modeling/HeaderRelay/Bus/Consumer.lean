import HeaderRelay.Bus.Session
import HeaderRelay.Proof.Settlement

/-
Consuming results. One result is settled at a time, and a failure never stops the consumer. With
delivery at least once a result is acknowledged when nothing can come of settling it again; any
other is left to be delivered once more.
-/

set_option autoImplicit false

namespace HeaderRelay.Bus.Consumer

def resultStream (s : Settings) : Stream := ⟨s.resultStream, [s.resultSubject], .limits⟩

/-- Whether the durable consumer is there or could be created. -/
def hasConsumer (s : Settings) : Session Bool := do
  match (← Session.ask (.findConsumer s.resultStream s.resultConsumer) : Finding) with
  | .found => return true
  | .missing => Session.ask (.createConsumer s.resultStream s.resultConsumer)
  | .failed => return false

def subscribe (s : Settings) : Session Unit := do
  Session.connect s
  let subscribed : Bool ← Session.ask (.subscribe s.resultSubject)
  if subscribed then return ()
  else Session.fail "Subscribe failed: *"

def attach (s : Settings) : Session Unit := do
  Session.connect s
  Session.ensureStream (resultStream s)
  if !(← hasConsumer s) then Session.fail "Failed to create consumer: *"
  else
    let pulled : Bool ← Session.ask (.pull s.resultStream s.resultConsumer)
    if pulled then return () else Session.fail "Failed to pull results: *"

def start (s : Settings) : Session Unit :=
  match s.delivery with
  | .atMostOnce => subscribe s
  | .atLeastOnce => attach s

/-- The fault of a delivery that came to its end. -/
def ended : Delivery → Fault
  | .atMostOnce => ⟨.bus, "Result subscription closed"⟩
  | .atLeastOnce => ⟨.bus, "Result consumer closed"⟩

/-- Whether a result is done with: it was settled, or settling it again would fail again. -/
def isSettled {α : Type} : Except Fault α → Bool
  | .ok _ => true
  | .error fault => !fault.isTransient

/-- A program that talks to the bus and relays. -/
abbrev Consuming (α : Type) := Program (busServer.both relaying) α

/-- Settles a message, and acknowledges it where it is done with. -/
def handle (delivery : Delivery) (payload : Bytes) : Consuming Unit := do
  let outcome ← (Proof.settlePayload payload).run.right
  match delivery, isSettled outcome with
  | .atLeastOnce, true =>
      (Program.query (I := busServer) .acknowledge : Program busServer Unit).left
  | _, _ => return ()

/-- Consumes at most the given number of arrivals. The outcome is missing as long as there may be
more of them. -/
def consume (delivery : Delivery) : Nat → Consuming (Option (Except Fault Unit))
  | 0 => return none
  | fuel + 1 => do
      match ← (Program.query (I := busServer) .next : Program busServer Arrival).left with
      | .message payload =>
          handle delivery payload
          consume delivery fuel
      | .lost => consume delivery fuel
      | .closed => return some (.error (ended delivery))
      | .cancelled => return some (.ok ())

/-- Starts the delivery of results and consumes at most the given number of arrivals. -/
def serve (s : Settings) (link : Link) (fuel : Nat) :
    Consuming (Option (Except Fault Unit) × Link) := do
  let (outcome, link) ← ((start s).run.run link).left
  match outcome with
  | .ok _ => return (← consume s.delivery fuel, link)
  | .error fault => return (some (.error fault), link)

end HeaderRelay.Bus.Consumer
