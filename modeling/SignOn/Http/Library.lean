import SignOn.Http.Address
import SignOn.Http.Message

/-!
The HTTP library that carries the requests. It makes a request only of an
address that it can read, and it follows redirects by itself: the response that
it hands over is the last one it comes to. How it reads addresses, and what a
`Location` means to it, is left open. What stands here for it serves for plain
addresses, of a scheme of the web and with a host.
-/

namespace SignOn

/-- What a library makes of addresses, and how many redirects in a row it
follows. -/
structure Library where
  reads : String → Bool := fun address => (Address.host? address).any (!·.isEmpty)
  /-- The address that a `Location` names, seen from the address that gave it. -/
  locate : String → String → Option String := fun _ location =>
    (Address.split? location).map fun _ => location
  sameHost : String → String → Bool := fun a b => Address.host? a == Address.host? b
  redirects : Nat := 10

namespace Library

variable (l : Library)

/-- Whether a request can be made at all. -/
def builds (q : Request) : Bool := l.reads q.url && q.hasLegalHeaders

/-- The request that goes to another address in place of one. Only two statuses
let its method and body go along, and only the same host gets to see what the
headers say for authorization. -/
def relay (q : Request) (status : Status) (url : String) : Request :=
  { q with
    method := if status.keepsBody then q.method else .get
    url
    credentials := if l.sameHost q.url url then q.credentials else none
    authorization := if l.sameHost q.url url then q.authorization else none
    body := if status.keepsBody then q.body else none }

/-- The request that follows a response, if that is a redirect and says where to. -/
def redirect? (q : Request) (r : Response) : Option Request :=
  if r.delivery = .lost || !r.status.isRedirect then none
  else ((Header.first? "Location" r.headers).bind (l.locate q.url)).map (l.relay q r.status)

end Library

namespace Reply

/-- The reply to a request that was sent on. -/
def onward (r : Reply) (q : Request) : Reply :=
  match r.beyond with
  | [] => { status := 404 }
  | next :: rest => { toResponse := next, beyond := rest, stray := some (.unanswered q.url) }

/-- One redirect too many. -/
def endless (r : Reply) (q : Request) : Reply :=
  { delivery := .lost, meanwhile := r.meanwhile, stray := some (.endless q.url) }

/-- A reply, with what had happened before it was asked for. -/
def after (r : Reply) (before : List Event) : Reply := { r with meanwhile := before ++ r.meanwhile }

end Reply

/-- What the library hands over in the end, and what it has sent by itself. -/
structure Pursuit where
  reply : Reply
  sent : List Request := []

/-- Follows the redirects that a reply begins, as long as `left` allows. -/
def Library.pursue (l : Library) (left : Nat) (q : Request) (r : Reply) : Pursuit :=
  match l.redirect? q r.toResponse, left with
  | none, _ => { reply := r }
  | some _, 0 => { reply := r.endless q }
  | some p, left + 1 =>
    let next := l.pursue left p (r.onward p)
    { reply := next.reply.after r.meanwhile, sent := p :: next.sent }

end SignOn
