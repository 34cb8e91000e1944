import SignOn.Config
import SignOn.Http.Address
import SignOn.Http.Message
import SignOn.Wire.Credentials
import SignOn.Wire.Document

/-!
What a client can do, and the one request that each operation sends. An
operation takes at most one token from the session: an access token goes into
the header, a refresh token into the body.
-/

namespace SignOn

inductive Operation
  | login (credentials : Credentials)
  | strengthen (stepUp : StepUp)
  | logout
  | refresh
  | revoke
  | current
  | profile
  | roles
  | hasPermission (permission : String)
  | deviceList
  | deviceStatus
  | verifyDocument (submission : Submission)
  | documentStatus
  | revokeDocument
  | enroll
  | machineToken (secret : String)
  | revokeMachine (secret : String)

/-- The token that an operation takes from the session. -/
inductive TokenUse
  | none
  | access
  | refresh
deriving DecidableEq

namespace Operation

def tokenUse : Operation → TokenUse
  | .login _ | .enroll | .machineToken _ | .revokeMachine _ => .none
  | .refresh => .refresh
  | _ => .access

/-- The token in question, if the session holds it. -/
def token (op : Operation) (s : Session) : Option String :=
  match op.tokenUse with
  | .none => none
  | .access => s.accessToken
  | .refresh => s.refreshToken

def method : Operation → Method
  | .current | .profile | .roles | .hasPermission _ | .deviceList | .deviceStatus
  | .documentStatus => .get
  | _ => .post

def path : Operation → String
  | .login _ => "/api/v1/auth/login"
  | .strengthen _ => "/api/v1/auth/strengthen"
  | .logout => "/api/v1/auth/logout"
  | .refresh => "/api/v1/auth/refresh"
  | .revoke => "/api/v1/auth/token/revoke"
  | .current | .roles | .hasPermission _ => "/api/v1/userinfo"
  | .profile => "/api/v1/users/me"
  | .deviceList => "/api/v1/devices"
  | .deviceStatus => "/api/v1/devices/status"
  | .verifyDocument _ => "/api/v1/eid/verify"
  | .documentStatus => "/api/v1/eid/status"
  | .revokeDocument => "/api/v1/eid/revoke"
  | .enroll => "/api/v1/machine/enroll"
  | .machineToken _ => "/oauth2/token"
  | .revokeMachine _ => "/oauth2/revoke"

/-- The body, for the operations that send one. `token` is the token taken from
the session. -/
def payload (config : Config) (token : Option String) : Operation → Option Json
  | .login c => some c.toJson
  | .strengthen s => some s.toJson
  | .refresh => some (.object [("refreshToken", .text (token.getD ""))])
  | .verifyDocument d => some d.toJson
  | .enroll => some (.object [("clientId", .text config.clientId)])
  | .machineToken secret =>
    some (.object [
      ("grant_type", .text "client_credentials"),
      ("client_id", .text config.clientId),
      ("client_secret", .text secret)])
  | .revokeMachine secret =>
    some (.object [("client_id", .text config.clientId), ("client_secret", .text secret)])
  | _ => none

end Operation

/-- The header for the user information in an address of a client. -/
def Config.credentials (c : Config) (path : String) : Option String :=
  (Address.userInfo? (c.url path)).map UserInfo.basic

/-- A request of a client, to the address as it is read. An empty token is not
sent. -/
def Config.request (c : Config) (method : Method) (path : String) (bearer : Option String)
    (body : Option String) : Request :=
  { method
    url := Address.canonical (c.url path)
    clientId := c.clientId
    credentials := c.credentials path
    authorization := (bearer.bind nonEmpty?).map ("Bearer " ++ ·)
    body }

namespace Operation

/-- The request of an operation that has taken `token` from the session. Only
an access token goes into the header. -/
def request (config : Config) (op : Operation) (token : Option String) : Request :=
  config.request op.method op.path (if op.tokenUse = .access then token else none)
    ((op.payload config token).map Json.render)

end Operation

end SignOn
