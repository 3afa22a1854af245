import HeaderRelay.Relay.Program
import HeaderRelay.Text.Utf8

set_option autoImplicit false

namespace HeaderRelay.Bus

/-- Which messages a stream gives up. -/
inductive Retention
  /-- Those beyond its limits. -/
  | limits
  /-- Those that were acknowledged. -/
  | workQueue
  deriving DecidableEq, Repr

def Retention.word : Retention → String
  | .limits => "limits"
  | .workQueue => "workqueue"

/-- A stream: its name and what it keeps. -/
structure Stream where
  name : String
  subjects : List String
  retention : Retention
  deriving DecidableEq, Repr

/-- Whether a character may stand in the name of a stream. -/
def isNameChar (c : Char) : Bool :=
  !(c == ' ' || c == '\t' || c == '\n' || c == '\r' || c == '\x0c' || c == '.' || c == '*' ||
    c == '>')

/-- Whether a text can be the name of a stream. -/
def isStreamName (name : String) : Bool := !name.isEmpty && name.toList.all isNameChar

/-- What a server says about something it is asked to find. -/
inductive Finding
  | found
  | missing
  | failed
  deriving DecidableEq, Repr

/-- What comes back for a message that was published. -/
inductive Receipt
  /-- The message could not be sent. -/
  | unsent
  /-- Nothing comes back. -/
  | silent
  /-- A reply with a body. -/
  | reply (body : Bytes)
  deriving DecidableEq, Repr

inductive Arrival
  | message (payload : Bytes)
  /-- A message could not be received. -/
  | lost
  /-- There will be no more messages. -/
  | closed
  /-- The subscriber is asked to stop. -/
  | cancelled
  deriving DecidableEq, Repr

inductive ServerCall
  | connect (url : String)
  /-- Wait for a number of seconds. -/
  | pause (seconds : Nat)
  | findStream (name : String)
  | createStream (stream : Stream)
  | findConsumer (stream name : String)
  | createConsumer (stream name : String)
  | publish (subject payload : String)
  | subscribe (subject : String)
  /-- Have the messages of a consumer sent. -/
  | pull (stream consumer : String)
  | next
  /-- Acknowledge the message that came last. -/
  | acknowledge
  deriving DecidableEq, Repr

/-- The answers to a question; a truth value says whether it went well. -/
def ServerCall.Answer : ServerCall → Type
  | .connect _ => Bool
  | .pause _ => Unit
  | .findStream _ => Finding
  | .createStream _ => Bool
  | .findConsumer _ _ => Finding
  | .createConsumer _ _ => Bool
  | .publish _ _ => Receipt
  | .subscribe _ => Bool
  | .pull _ _ => Bool
  | .next => Arrival
  | .acknowledge => Unit

def busServer : Interface := ⟨ServerCall, ServerCall.Answer⟩

end HeaderRelay.Bus
