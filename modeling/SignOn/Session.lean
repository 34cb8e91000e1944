import SignOn.Time.Instant
import SignOn.Text.Absent
import SignOn.Wire.Grant

/-!
The session of a client: an access token with its expiry, and a refresh token.
It changes only by whole writes. An empty token counts as none. A session is
authenticated as long as it holds an access token, expired or not.
-/

namespace SignOn

structure Session where
  accessToken : Option String
  expiresAt : Option Instant
  refreshToken : Option String
deriving DecidableEq

namespace Session

def empty : Session := ⟨none, none, none⟩

/-- A write: a whole grant, a new access token beside the refresh token held,
or nothing at all. -/
inductive Write
  | install (grant : Grant)
  | renew (token : String) (lifetime : UInt64)
  | clear

/-- The session after a write at a given moment. Without an access token there
is no expiry. -/
def write (now : Instant) : Write → Session → Session
  | .install grant, _ =>
    { accessToken := nonEmpty? grant.accessToken
      expiresAt := (nonEmpty? grant.accessToken).map fun _ => now.expiry grant.expiresIn
      refreshToken := grant.refreshToken.bind nonEmpty? }
  | .renew token lifetime, s =>
    { s with
      accessToken := nonEmpty? token
      expiresAt := (nonEmpty? token).map fun _ => now.expiry lifetime }
  | .clear, _ => empty

/-- How many seconds a token lasts that comes without a lifetime. -/
def seededLifetime : UInt64 := 3600

/-- A session that starts with an access token from elsewhere. -/
def seeded (now : Instant) (token : String) : Session :=
  empty.write now (.renew token seededLifetime)

def isEmpty (s : Session) : Bool :=
  s.accessToken.isNone && s.expiresAt.isNone && s.refreshToken.isNone

def isAuthenticated (s : Session) : Bool := s.accessToken.isSome

/-- Whether the access token held has run out. -/
def isExpired (now : Instant) (s : Session) : Bool :=
  match s.accessToken, s.expiresAt with
  | some _, some t => t ≤ now
  | _, _ => false

end Session

/-- What may happen to a session beside the requests of its clients: a write,
or the passing of time. -/
inductive Event
  | write (w : Session.Write)
  | setClock (now : Instant)

end SignOn
