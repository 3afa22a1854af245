import HeaderRelay.Launch.Plan
import HeaderRelay.Relay.Metrics
import HeaderRelay.Server.Respond
import HeaderRelay.Simulation.Site

set_option autoImplicit false

namespace HeaderRelay.Simulation.Site

/-- How many iterations of the epoch loop a rehearsal may take. -/
def mostIterations : Nat := 1000

/-- Answers one request after another. -/
def serve (s : Site) (rules : Epoch.Rules) : List Server.Request → List Server.Response × Site
  | [] => ([], s)
  | request :: rest =>
      let lines := Metrics.lines s.notes.reverse
      match (Server.respond rules lines request).drive answer s with
      | (some response, s) =>
          let (responses, s) := s.serve rules rest
          (response :: responses, s)
      | (none, s) => ([], s)

def hasFailed : Option (Except Fault Unit) → Bool
  | some (.error _) => true
  | _ => false

/-- Starts a relay, whose port may be taken, and asks it what is to be asked. -/
def launch (s : Site) (plan : Launch.Plan) (occupied : Bool) (requests : List Server.Request) :
    List Server.Response × Site :=
  let (consumed, s) := s.consume
  let (looped, s) := (Epoch.loop plan.rules plan.retry mostIterations).drive answer s
  if occupied || hasFailed consumed || looped.join.isSome then ([], s)
  else s.serve plan.rules requests

end HeaderRelay.Simulation.Site
