import SignOn.Scene

/-!
Requests outside the operations: any path, any payload. A payload that JSON
cannot hold fails before an attempt is made.
-/

namespace SignOn

/-- What goes into the body. -/
inductive Payload
  | nothing
  | value (v : Json)
  | unencodable

/-- The body: compact, and with the members of objects in the order of their
names. -/
def Payload.encode : Payload → Except SendFailure (Option String)
  | .nothing => .ok none
  | .value v => .ok (some v.sorted.render)
  | .unencodable => .error .unencodable

/-- Sends a request of a client and repeats it as its settings allow. -/
def Scene.send (config : Config) (method : Method) (path : String) (bearer : Option String)
    (payload : Payload) (s : Scene) : Outcome × Scene :=
  match payload.encode with
  | .error failure => (.error failure, s)
  | .ok body => s.run { request := config.request method path bearer body, policy := config.policy }

end SignOn
