import SignOn.Failure
import SignOn.Http.Library
import SignOn.Wire.Complaint

/-!
One exchange with the service: a request goes out, and a reply comes back or
fails to. A success yields the body; anything else is a failure.
-/

namespace SignOn

/-- How one attempt ends. -/
abbrev Outcome := Except SendFailure (List UInt8)

namespace Reply

/-- What a reply that is no success says. A body that breaks off says nothing. -/
def complaint (r : Reply) : Complaint :=
  Complaint.ofBody (Utf8.encode (Utf8.decodeLenient (if r.isCut then [] else r.content)))

/-- The refusal for which a reply stands that is no success. The header's
identifier comes before the one in the body. -/
def refusal (r : Reply) : SendFailure :=
  let said := r.complaint
  let refusal := Refusal.ofHints r.status said.code said.requiresTotp
  .refused r.status refusal
    ((said.message.bind nonEmpty?).getD refusal.defaultMessage)
    (r.requestId?.or (said.requestId.bind nonEmpty?))

end Reply

def Stray.breakdown : Stray → Breakdown
  | .unanswered url => .noAnswer url
  | .endless url => .tooManyRedirects url

/-- How an attempt ends for which the library hands over a reply. -/
def Request.outcome (q : Request) (r : Reply) : Outcome :=
  if r.delivery = .lost then .error (.network (r.stray.elim (.noAnswer q.url) Stray.breakdown))
  else if r.status.isSuccess then
    if r.isCut then .error (.network .brokenBody) else .ok r.content
  else .error r.refusal

/-- The service with the replies it will give in turn, whether requests get
there at all, and the library by which they go. -/
structure Service where
  reachable : Bool
  replies : List Reply
  library : Library := {}

namespace Service

/-- What the service answers when it has nothing else to say. -/
def notFound : Reply := { status := 404 }

/-- The next reply and the service after it. -/
def next (s : Service) : Reply × Service :=
  match s.replies with
  | [] => (notFound, s)
  | r :: rest => (r, { s with replies := rest })

/-- Whether a request gets to the service. -/
def receives (s : Service) (q : Request) : Bool := s.library.builds q && s.reachable

/-- What comes of a request that gets to the service. -/
def answer (s : Service) (q : Request) : Pursuit :=
  s.library.pursue s.library.redirects q s.next.1

end Service

end SignOn
