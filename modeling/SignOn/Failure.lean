import SignOn.Refusal
import SignOn.Json.Fault

/-!
How an operation fails. Sending a request fails on the network, by a refusal
of the service, or because its payload has no JSON form. On top of that an
operation may lack the token it needs, may be given an answer that it cannot
read, and a client may be set up wrongly.
-/

namespace SignOn

/-- How the network fails. -/
inductive Breakdown
  | unbuildable
  | noAnswer (url : String)
  | tooManyRedirects (url : String)
  | brokenBody
deriving DecidableEq

/-- How sending a request fails. -/
inductive SendFailure
  | refused (status : Status) (refusal : Refusal) (message : String) (requestId : Option String)
  | network (breakdown : Breakdown)
  | unencodable
deriving DecidableEq

/-- What is wrong with the settings of a client. -/
inductive Misconfiguration
  | noEndpoint
  | endpointScheme (endpoint : String)
  | noClientId
  | clientIdForm (clientId : String)
deriving DecidableEq

inductive Failure
  | signedOut
  | unreadable (context : String) (error : Json.Error)
  | sending (failure : SendFailure)
  | misconfigured (fault : Misconfiguration)
deriving DecidableEq

def Breakdown.describe : Breakdown → String
  | .unbuildable => "builder error"
  | .noAnswer url => "error sending request for url (" ++ url ++ ")"
  | .tooManyRedirects url => "error following redirect for url (" ++ url ++ ")"
  | .brokenBody => "error decoding response body"

namespace SendFailure

def message : SendFailure → String
  | .refused status refusal text _ =>
    "API error " ++ status.describe ++ " (" ++ refusal.code ++ "): " ++ text
  | .network breakdown => "network error: " ++ breakdown.describe
  | .unencodable => "failed to encode request body: key must be a string"

/-- Whether a later attempt may succeed: the network and the server recover. -/
def isRetryable : SendFailure → Bool
  | .refused _ refusal _ _ => refusal = .serverError
  | .network _ => true
  | .unencodable => false

end SendFailure

namespace Misconfiguration

/-- The setting at fault. -/
def setting : Misconfiguration → String
  | .noEndpoint | .endpointScheme _ => "endpoint"
  | .noClientId | .clientIdForm _ => "client_id"

def describe : Misconfiguration → String
  | .noEndpoint => "endpoint is required"
  | .endpointScheme endpoint =>
    "endpoint must start with http:// or https://, got " ++ Text.quote endpoint
  | .noClientId => "client id is required"
  | .clientIdForm clientId => "client id is not a valid header value: " ++ Text.quote clientId

end Misconfiguration

namespace Failure

def message : Failure → String
  | .signedOut => "session expired: re-authentication required"
  | .unreadable context error =>
    "failed to decode " ++ context ++ " response: " ++ error.message
  | .sending failure => failure.message
  | .misconfigured fault =>
    "invalid configuration: " ++ fault.setting ++ ": " ++ fault.describe

/-- Whether a new token would help: none is held, or the service rejected the
one that was sent. -/
def isAuthFailure : Failure → Bool
  | .signedOut => true
  | .sending (.refused _ .authenticationFailed _ _) => true
  | .sending (.refused _ .sessionExpired _ _) => true
  | _ => false

end Failure

end SignOn
