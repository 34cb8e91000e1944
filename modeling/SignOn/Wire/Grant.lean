import SignOn.Json.Record
import SignOn.Json.Value
import SignOn.Text.Description

/-!
What the service grants to a person who signs on: an access token, how many
seconds it lasts, and possibly a refresh token for new access tokens.
-/

namespace SignOn

structure Grant where
  accessToken : String
  expiresIn : UInt64
  refreshToken : Option String
deriving DecidableEq

namespace Grant

def typeName : String := "TokenResponse"

def fields : List Json.Field := [
  .required "accessToken" Json.Reader.text,
  .required "expiresIn" Json.Reader.natural,
  .optional "refreshToken" Json.Reader.text]

def ofValues : Json.Values fields → Grant
  | (accessToken, expiresIn, refreshToken, ()) => { accessToken, expiresIn, refreshToken }

def reader : Json.Reader Grant := (Json.Reader.record typeName fields).map ofValues

/-- An absent refresh token is left out. -/
def toJson (g : Grant) : Json :=
  .object <|
    [("accessToken", .text g.accessToken), ("expiresIn", .integer g.expiresIn.toNat)] ++
      (g.refreshToken.map fun r => ("refreshToken", Json.text r)).toList

def describe (g : Grant) : String :=
  Description.record typeName [
    ("access_token", Description.text g.accessToken),
    ("expires_in", toString g.expiresIn.toNat),
    ("refresh_token", Description.option Description.text g.refreshToken)]

end Grant

end SignOn
