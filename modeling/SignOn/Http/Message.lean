import SignOn.Http.Header
import SignOn.Http.Status
import SignOn.Session

/-!
Requests as a client hands them to its HTTP library, and what comes back to the
library. On this side of the library stand the method, the address, the headers
of the client and the body, and also the header that the library adds for user
information in the address. On the other side, and left out, are the headers
that it adds for its own purposes, the connection and its encryption. What the
library makes of addresses and redirects is in `SignOn.Http.Library`.
-/

namespace SignOn

inductive Method
  | get
  | post
deriving DecidableEq

/-- A request. `authorization` is the header of that name as the client sets it,
and `credentials` another one that the library puts before it. -/
structure Request where
  method : Method
  url : String
  clientId : String
  credentials : Option String := none
  authorization : Option String
  body : Option String
deriving DecidableEq

namespace Request

/-- The content type of what a client sends, with a body or without one. -/
def contentType : String := "application/json"

/-- All values under the name `Authorization`. -/
def authorizations (r : Request) : List String := r.credentials.toList ++ r.authorization.toList

/-- Whether the headers that the client sets can be written down. -/
def hasLegalHeaders (r : Request) : Bool :=
  Header.isLegal r.clientId && (r.authorization.all Header.isLegal)

end Request

/-- How much of a response arrives: all, a part of the body, or nothing. -/
inductive Delivery
  | whole
  | cut
  | lost
deriving DecidableEq

/-- What comes back for one request, with what happens in the meantime. -/
structure Response where
  status : Status := 200
  headers : List (String × String) := []
  body : List UInt8 := []
  delivery : Delivery := .whole
  meanwhile : List Event := []

/-- How a request is lost that was sent on: there was no answer from the address,
or the answer would have sent it on once too often. -/
inductive Stray
  | unanswered (url : String)
  | endless (url : String)
deriving DecidableEq

/-- The reply to a request of a client. `beyond` holds the responses, in turn, to
the requests that the library sends on if the reply is a redirect; `stray` says
how nothing has come back, if it is not for want of a response to the request
itself. -/
structure Reply extends Response where
  beyond : List Response := []
  stray : Option Stray := none

namespace Reply

/-- The body as far as the status allows one. -/
def content (r : Reply) : List UInt8 := if r.status.isBodiless then [] else r.body

/-- Whether the body breaks off. -/
def isCut (r : Reply) : Bool := r.delivery = .cut && !r.status.isBodiless

/-- The identifier that the service gave to the exchange, by its header. -/
def requestId? (r : Reply) : Option String :=
  match Header.first? "X-Request-ID" r.headers with
  | some id => if Header.isReadable id then nonEmpty? id else none
  | none => none

end Reply

end SignOn
