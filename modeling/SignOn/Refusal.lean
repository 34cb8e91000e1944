import SignOn.Http.Status

/-!
What an answer that is no success means. The status decides, helped by two
hints of the body: a code, and a demand for a one-time code.
-/

namespace SignOn

inductive Refusal
  | authenticationFailed
  | authorizationFailed
  | sessionExpired
  | totpRequired
  | deviceNotAvailable
  | invalidInput
  | serverError
deriving DecidableEq

namespace Refusal

/-- The hints on 401 come before its general meaning, and a missing device
before the fault of a server. -/
def ofHints (status : Status) (code : Option String) (requiresTotp : Bool) : Refusal :=
  if status = 401 then
    if code = some "SESSION_EXPIRED" then .sessionExpired
    else if code = some "TOTP_REQUIRED" || requiresTotp then .totpRequired
    else .authenticationFailed
  else if status = 403 then .authorizationFailed
  else if code = some "DEVICE_NOT_AVAILABLE" then .deviceNotAvailable
  else if status.isServerError then .serverError
  else .invalidInput

/-- As the service spells it. -/
def code : Refusal → String
  | .authenticationFailed => "AUTHENTICATION_FAILED"
  | .authorizationFailed => "AUTHORIZATION_FAILED"
  | .sessionExpired => "SESSION_EXPIRED"
  | .totpRequired => "TOTP_REQUIRED"
  | .deviceNotAvailable => "DEVICE_NOT_AVAILABLE"
  | .invalidInput => "INVALID_INPUT"
  | .serverError => "SERVER_ERROR"

/-- The text for a refusal that comes without one. -/
def defaultMessage : Refusal → String
  | .authenticationFailed => "Authentication failed"
  | .authorizationFailed => "Authorization failed"
  | .sessionExpired => "Session expired"
  | .totpRequired => "TOTP verification required"
  | .deviceNotAvailable => "Device not available"
  | .invalidInput => "An error occurred"
  | .serverError => "Server error occurred"

def describe : Refusal → String
  | .authenticationFailed => "AuthenticationFailed"
  | .authorizationFailed => "AuthorizationFailed"
  | .sessionExpired => "SessionExpired"
  | .totpRequired => "TotpRequired"
  | .deviceNotAvailable => "DeviceNotAvailable"
  | .invalidInput => "InvalidInput"
  | .serverError => "ServerError"

end Refusal

end SignOn
