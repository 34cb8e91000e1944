import SignOn.Flight

/-!
The surroundings of an operation: the session, the clock and the service, with
a record of the traffic. An attempt goes to the service; what happens there
before the reply changes the session and the clock.
-/

namespace SignOn

/-- How many attempts were made, the requests of these that the service
received, the requests that the library sent on in their course, and the
retries announced. -/
structure Traffic where
  attempts : Nat := 0
  requests : List Request := []
  onward : List Request := []
  notices : List Notice := []

structure Scene where
  session : Session
  clock : Instant
  service : Service
  traffic : Traffic := {}

namespace Scene

def happen (s : Scene) : Event → Scene
  | .write w => { s with session := s.session.write s.clock w }
  | .setClock now => { s with clock := now }

def happenAll (s : Scene) (events : List Event) : Scene := events.foldl happen s

/-- A write at the end of an operation, if there is one. -/
def landing (s : Scene) : Option Session.Write → Scene
  | none => s
  | some w => s.happen (.write w)

def announce (s : Scene) (notices : List Notice) : Scene :=
  { s with traffic := { s.traffic with notices := s.traffic.notices ++ notices } }

/-- Counts an attempt. -/
def counted (s : Scene) : Scene :=
  { s with traffic := { s.traffic with attempts := s.traffic.attempts + 1 } }

/-- The service receives a request, and others may be sent on from there. -/
def received (s : Scene) (q : Request) : Scene :=
  { s with
    service := s.service.next.2
    traffic := { s.traffic with
      requests := s.traffic.requests ++ [q]
      onward := s.traffic.onward ++ (s.service.answer q).sent } }

/-- One attempt: it fails at once if the request cannot be made, and without an
answer if the service is out of reach. -/
def attempt (q : Request) (s : Scene) : Outcome × Scene :=
  if !s.service.library.builds q then (.error (.network .unbuildable), s.counted)
  else if !s.service.reachable then (.error (.network (.noAnswer q.url)), s.counted)
  else
    let reply := (s.service.answer q).reply
    (q.outcome reply, (s.counted.received q).happenAll reply.meanwhile)

/-- Makes the attempts of a call until it is over. -/
def run (c : Call) (s : Scene) : Outcome × Scene :=
  let (notices, outcome, after) := c.run attempt s
  (outcome, after.announce notices)

/-- A whole operation, with nothing else under way. -/
def perform (config : Config) (op : Operation) (s : Scene) : Result × Scene :=
  match op.start config s.session with
  | .landed result write => (result, s.landing write)
  | .waiting flight =>
    let (outcome, after) := s.run flight.call
    let (result, write) := flight.land outcome
    (result, after.landing write)

end Scene

/-- One of several operations under way at the same time. -/
inductive Leg
  | waiting (flight : Flight)
  | landed (result : Result)

/-- Attempts that may still be made. -/
def Leg.left : Leg → Nat
  | .waiting flight => flight.call.left + 1
  | .landed _ => 0

theorem Leg.left_waiting (f : Flight) : (Leg.waiting f).left = f.call.left + 1 := rfl

namespace Scene

/-- A stage is reached: a landing writes at once. -/
def reach (s : Scene) : Stage → Leg × Scene
  | .waiting flight => (.waiting flight, s)
  | .landed result write => (.landed result, s.landing write)

/-- The next attempt of an operation, if it is still under way. -/
def advance (leg : Leg) (s : Scene) : Leg × Scene :=
  match leg with
  | .landed result => (.landed result, s)
  | .waiting flight =>
    let (outcome, after) := s.attempt flight.call.request
    let (notice, stage) := flight.receive outcome
    (after.announce notice.toList).reach stage

theorem advance_left (leg : Leg) (s : Scene) : (s.advance leg).1.left ≤ leg.left - 1 := by
  cases leg with
  | landed result => exact Nat.zero_le _
  | waiting flight =>
    simp only [advance, Flight.receive]
    split
    · next hn => exact Call.next_left hn
    · exact Nat.zero_le _

/-- Two operations in turn, until both have landed. -/
def inTurn (a b : Leg) (s : Scene) : (Result × Result) × Scene :=
  match a, b with
  | .landed ra, .landed rb => ((ra, rb), s)
  | .waiting f, b =>
    let first := s.advance (.waiting f)
    let second := first.2.advance b
    inTurn first.1 second.1 second.2
  | .landed ra, .waiting f =>
    let second := s.advance (.waiting f)
    inTurn (.landed ra) second.1 second.2
termination_by a.left + b.left
decreasing_by
  · have ha := advance_left (.waiting f) s
    have hb := advance_left b (s.advance (.waiting f)).2
    simp only [Leg.left_waiting] at ha ⊢
    omega
  · have hb := advance_left (.waiting f) s
    simp only [Leg.left_waiting] at hb ⊢
    omega

/-- Two operations started one after the other and under way together. -/
def performBoth (config : Config) (op₁ op₂ : Operation) (s : Scene) :
    (Result × Result) × Scene :=
  let (first, s) := s.reach (op₁.start config s.session)
  let (second, s) := s.reach (op₂.start config s.session)
  s.inTurn first second

end Scene

end SignOn
