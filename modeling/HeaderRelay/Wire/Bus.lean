import HeaderRelay.Bus.Server
import HeaderRelay.Json.Basic

set_option autoImplicit false

namespace HeaderRelay.Bus

def Retention.toJson (r : Retention) : Json := .text r.word

def Stream.toJson (s : Stream) : Json :=
  .record [("name", .text s.name), ("subjects", .array (s.subjects.map .text)),
    ("retention", s.retention.toJson)]

/-- A durable consumer that acknowledges every message by itself. -/
def consumerJson (name : String) : Json :=
  .record [("durable_name", .text name), ("ack_policy", .text "explicit")]

/-- The subject of a request and its body, if it has one. -/
def ServerCall.request? : ServerCall → Option (String × Option Json)
  | .findStream name => some ("STREAM.INFO." ++ name, none)
  | .createStream stream => some ("STREAM.CREATE." ++ stream.name, some stream.toJson)
  | .findConsumer stream name => some ("CONSUMER.INFO." ++ stream ++ "." ++ name, none)
  | .createConsumer stream name =>
      some ("CONSUMER.CREATE." ++ stream ++ "." ++ name, some (consumerJson name))
  | .pull stream name => some ("CONSUMER.MSG.NEXT." ++ stream ++ "." ++ name, none)
  | _ => none

end HeaderRelay.Bus
