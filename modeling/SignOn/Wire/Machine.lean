import SignOn.Json.Record
import SignOn.Text.Description

/-!
What the service issues to machines. Descriptions never show a secret.
-/

namespace SignOn

/-- The identity of an enrolled machine, its secret, and possibly a first token. -/
structure Enrollment where
  machineId : String
  clientId : String
  secret : String
  accessToken : Option String
deriving DecidableEq

namespace Enrollment

def typeName : String := "MachineEnrollment"

def fields : List Json.Field := [
  .required "machineId" Json.Reader.text,
  .required "clientId" Json.Reader.text,
  .required "secret" Json.Reader.text,
  .optional "accessToken" Json.Reader.text]

def ofValues : Json.Values fields → Enrollment
  | (machineId, clientId, secret, accessToken, ()) =>
    { machineId, clientId, secret, accessToken }

def reader : Json.Reader Enrollment := (Json.Reader.record typeName fields).map ofValues

def describe (e : Enrollment) : String :=
  Description.record typeName [
    ("machine_id", Description.text e.machineId),
    ("client_id", Description.text e.clientId),
    ("secret", Description.redacted),
    ("access_token", Description.secret e.accessToken)]

end Enrollment

/-- A token for a machine, how many seconds it lasts, and its scheme. -/
structure MachineToken where
  accessToken : String
  expiresIn : UInt64
  scheme : String
deriving DecidableEq

namespace MachineToken

def typeName : String := "MachineToken"

def fields : List Json.Field := [
  .required "accessToken" Json.Reader.text,
  .required "expiresIn" Json.Reader.natural,
  .orElse "tokenType" Json.Reader.text ""]

def ofValues : Json.Values fields → MachineToken
  | (accessToken, expiresIn, scheme, ()) => { accessToken, expiresIn, scheme }

def reader : Json.Reader MachineToken := (Json.Reader.record typeName fields).map ofValues

def describe (t : MachineToken) : String :=
  Description.record typeName [
    ("access_token", Description.redacted),
    ("expires_in", toString t.expiresIn.toNat),
    ("token_type", Description.text t.scheme)]

end MachineToken

end SignOn
