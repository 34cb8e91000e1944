import SignOn.Failure
import SignOn.Http.Header
import SignOn.Text.Blank
import SignOn.Text.Description
import SignOn.Time.Span

/-!
The settings of a client, what makes them acceptable, and the addresses that
follow from them.
-/

namespace SignOn

structure Config where
  endpoint : String
  clientId : String
  accessToken : Option String := none
  connectTimeout : Span := .ofSeconds 10
  requestTimeout : Span := .ofSeconds 30
  maxRetries : UInt32 := 3
  retryDelay : Span := .ofSeconds 1
deriving DecidableEq

namespace Config

/-- The endpoint is checked first, without the blanks around it; then the
client id, which is sent as it is. -/
def check (c : Config) : Except Misconfiguration Unit :=
  let endpoint := Text.trim c.endpoint
  if endpoint.isEmpty then .error .noEndpoint
  else if !("http://".toList.isPrefixOf endpoint.toList ||
      "https://".toList.isPrefixOf endpoint.toList) then
    .error (.endpointScheme endpoint)
  else if (Text.trim c.clientId).isEmpty then .error .noClientId
  else if !Header.isLegal c.clientId then .error (.clientIdForm c.clientId)
  else .ok ()

/-- The endpoint without blanks around it, then without slashes at its end. -/
def baseUrl (c : Config) : String :=
  String.ofList (Text.dropEnd (· == '/') (Text.trim c.endpoint).toList)

def url (c : Config) (path : String) : String := c.baseUrl ++ path

def describe (c : Config) : String :=
  Description.record "ClientConfig" [
    ("endpoint", Description.text c.endpoint),
    ("client_id", Description.text c.clientId),
    ("access_token", Description.secret c.accessToken),
    ("connect_timeout", c.connectTimeout.describe),
    ("request_timeout", c.requestTimeout.describe),
    ("max_retries", toString c.maxRetries.toNat),
    ("retry_delay", c.retryDelay.describe)]

end Config

end SignOn
