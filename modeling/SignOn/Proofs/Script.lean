import SignOn.Proofs.Course

/-!
Scripts: operations of one client in turn, each with the service that answers
it and with others about, and events between them. What is to be seen of an
operation is its result and its traffic.
-/

namespace SignOn

/-- One step of a script. -/
inductive Deed
  | operation (op : Operation) (service : Service) (others : Others)
  | event (e : Event)

/-- What is to be seen of an operation, beside the session that it found. -/
structure Sighting where
  operation : Operation
  held : Session
  result : Result
  traffic : Traffic
  unused : List Reply

/-- What is to be seen of the course of an operation. -/
def Course.seen (op : Operation) (held : Session) (c : Course) : Sighting where
  operation := op
  held := held
  result := c.result
  traffic := c.after.traffic
  unused := c.after.service.replies

namespace Scene

/-- A service comes into a scene, without traffic so far. -/
def facing (s : Scene) (service : Service) : Scene := { s with service, traffic := {} }

/-- What is to be seen of a script. -/
def play (config : Config) : List Deed → Scene → List Sighting
  | [], _ => []
  | .event e :: rest, s => play config rest (s.happen e)
  | .operation op service others :: rest, s =>
    let c := (s.facing service).course others config op
    c.seen op s.session :: play config rest c.after

end Scene

end SignOn
