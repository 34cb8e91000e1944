import SignOn.Json.Value
import SignOn.Text.Absent
import SignOn.Text.Description

/-!
What a person shows to sign on: email and password, a one-time code, and later
a second factor. Empty codes count as absent and are not sent.
-/

namespace SignOn

/-- A member that is left out if there is nothing to say. -/
def Json.spoken (name : String) (value : Option String) : List (String × Json) :=
  ((value.bind nonEmpty?).map fun v => (name, Json.text v)).toList

/-- Email and password, with a one-time code for accounts that ask for it. -/
structure Credentials where
  email : String
  password : String
  totp : Option String
deriving DecidableEq

namespace Credentials

def toJson (c : Credentials) : Json :=
  .object <|
    [("email", .text c.email), ("password", .text c.password)] ++ Json.spoken "totpCode" c.totp

def describe (c : Credentials) : String :=
  Description.record "AuthInput" [
    ("email", Description.text c.email),
    ("password", Description.redacted),
    ("totp_code", Description.secret c.totp)]

end Credentials

inductive Factor
  | totp
  | email
  | sms
deriving DecidableEq

namespace Factor

def wireName : Factor → String
  | .totp => "totp"
  | .email => "email"
  | .sms => "sms"

def describe : Factor → String
  | .totp => "Totp"
  | .email => "Email"
  | .sms => "Sms"

end Factor

/-- A second factor with its proof, if it needs one. -/
structure StepUp where
  factor : Factor
  value : Option String
deriving DecidableEq

namespace StepUp

def toJson (s : StepUp) : Json :=
  .object <| [("type", .text s.factor.wireName)] ++ Json.spoken "value" s.value

def describe (s : StepUp) : String :=
  Description.record "StrengthenInput" [
    ("factor", s.factor.describe),
    ("value", Description.option Description.text s.value)]

end StepUp

end SignOn
