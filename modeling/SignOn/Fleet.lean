import SignOn.Scene

/-!
Several clients at once. A clone shares the session of its client; a client
that is constructed gets a session of its own. One clock goes for all.
-/

namespace SignOn

/-- A client: its settings, and the number of its session. -/
structure Client where
  config : Config
  session : Nat
deriving DecidableEq

structure Fleet where
  clock : Instant
  clients : List Client := []
  sessions : List Session := []

/-- What is done with a client. -/
inductive Action
  | clone
  | construct (config : Config)
  | perform (op : Operation)
  | performBoth (first second : Operation)
  | event (e : Event)
  | look
  | isAuthenticated

/-- What comes of it. -/
inductive Finding
  | one (result : Result)
  | two (first second : Result)
  | client (index : Nat)

/-- What comes of an action, the traffic it made, the service after it, and
the client that it is about. -/
structure Report where
  finding : Finding
  traffic : Traffic := {}
  service : Service
  subject : Nat

namespace Fleet

def session? (f : Fleet) (client : Nat) : Option Session :=
  f.clients[client]?.bind fun c => f.sessions[c.session]?

/-- The session with which a client starts. -/
def initial (f : Fleet) (config : Config) : Session :=
  match config.accessToken with
  | some token => .seeded f.clock token
  | none => .empty

/-- One more client with a session of its own. Unacceptable settings change nothing. -/
def construct (f : Fleet) (config : Config) : Except Misconfiguration Fleet :=
  match config.check with
  | .error fault => .error fault
  | .ok () =>
    .ok { f with
      clients := f.clients ++ [{ config, session := f.sessions.length }]
      sessions := f.sessions ++ [f.initial config] }

/-- One more client with the settings and the session of another. -/
def clone (f : Fleet) (c : Client) : Fleet := { f with clients := f.clients ++ [c] }

/-- The surroundings of a client with the given session. -/
def scene (f : Fleet) (s : Session) (service : Service) : Scene :=
  { session := s, clock := f.clock, service }

/-- What is left in the surroundings of a client. -/
def leave (f : Fleet) (c : Client) (s : Scene) : Fleet :=
  { f with clock := s.clock, sessions := f.sessions.set c.session s.session }

/-- Does something with the client of the given number, if there is one. -/
def act (f : Fleet) (client : Nat) (action : Action) (service : Service) :
    Option (Report × Fleet) := do
  let c ← f.clients[client]?
  let session ← f.sessions[c.session]?
  let scene := f.scene session service
  match action with
  | .clone =>
    some ({ finding := .client f.clients.length, service, subject := f.clients.length }, f.clone c)
  | .construct config =>
    match f.construct config with
    | .ok g =>
      some ({ finding := .client f.clients.length, service, subject := f.clients.length }, g)
    | .error fault =>
      some ({ finding := .one (.error (.misconfigured fault)), service, subject := client }, f)
  | .perform op =>
    let (result, after) := scene.perform c.config op
    some ({ finding := .one result, traffic := after.traffic, service := after.service,
            subject := client }, f.leave c after)
  | .performBoth first second =>
    let ((a, b), after) := scene.performBoth c.config first second
    some ({ finding := .two a b, traffic := after.traffic, service := after.service,
            subject := client }, f.leave c after)
  | .event e =>
    some ({ finding := .one (.ok .done), service, subject := client },
      f.leave c (scene.happen e))
  | .look => some ({ finding := .one (.ok .done), service, subject := client }, f)
  | .isAuthenticated =>
    some ({ finding := .one (.ok (.flag session.isAuthenticated)), service, subject := client }, f)

end Fleet

end SignOn
