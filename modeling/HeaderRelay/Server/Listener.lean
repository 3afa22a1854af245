import HeaderRelay.Relay.Program

set_option autoImplicit false

namespace HeaderRelay.Server

inductive Knock
  | connection
  /-- The port cannot be listened to any longer. -/
  | broken
  /-- The server is told to stop. -/
  | stopped
  deriving DecidableEq, Repr

/-- What a server asks of its port. -/
inductive PortCall
  | bind (port : Nat)
  /-- Wait for what comes next. -/
  | next
  deriving DecidableEq, Repr

/-- The answers to a question; a port can be taken or not. -/
def PortCall.Answer : PortCall → Type
  | .bind _ => Bool
  | .next => Knock

def socket : Interface := ⟨PortCall, PortCall.Answer⟩

/-- Accepts at most the given number of connections. The outcome is missing as long as there may be
more of them. -/
def accept : Nat → Program socket (Option (Except String Unit))
  | 0 => return none
  | fuel + 1 => do
      match (← Program.query (I := socket) .next : Knock) with
      | .connection => accept fuel
      | .broken => return some (.error "*")
      | .stopped => return some (.ok ())

/-- Takes a port and accepts at most the given number of connections. -/
def listen (port fuel : Nat) : Program socket (Option (Except String Unit)) := do
  let bound : Bool ← Program.query (I := socket) (.bind port)
  if bound then accept fuel else return some (.error "*")

end HeaderRelay.Server
