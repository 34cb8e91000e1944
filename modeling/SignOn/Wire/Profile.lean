import SignOn.Json.Record
import SignOn.Json.Value
import SignOn.Text.Description

/-!
The profile of a user. Only the identifier has to be given.
-/

namespace SignOn

structure Profile where
  id : String
  name : String
  email : String
  role : String
  isActive : Bool
  accountType : String
  createdAt : Int64
  updatedAt : Int64
deriving DecidableEq

namespace Profile

def typeName : String := "UserProfile"

def fields : List Json.Field := [
  .required "id" Json.Reader.text,
  .orElse "name" Json.Reader.text "",
  .orElse "email" Json.Reader.text "",
  .orElse "role" Json.Reader.text "",
  .orElse "isActive" Json.Reader.flag false,
  .orElse "accountType" Json.Reader.text "",
  .orElse "createdAt" Json.Reader.integer 0,
  .orElse "updatedAt" Json.Reader.integer 0]

def ofValues : Json.Values fields → Profile
  | (id, name, email, role, isActive, accountType, createdAt, updatedAt, ()) =>
    { id, name, email, role, isActive, accountType, createdAt, updatedAt }

def reader : Json.Reader Profile := (Json.Reader.record typeName fields).map ofValues

def toJson (p : Profile) : Json :=
  .object [
    ("id", .text p.id),
    ("name", .text p.name),
    ("email", .text p.email),
    ("role", .text p.role),
    ("isActive", .flag p.isActive),
    ("accountType", .text p.accountType),
    ("createdAt", .integer p.createdAt.toInt),
    ("updatedAt", .integer p.updatedAt.toInt)]

def describe (p : Profile) : String :=
  Description.record typeName [
    ("id", Description.text p.id),
    ("name", Description.text p.name),
    ("email", Description.text p.email),
    ("role", Description.text p.role),
    ("is_active", Description.flag p.isActive),
    ("account_type", Description.text p.accountType),
    ("created_at", toString p.createdAt.toInt),
    ("updated_at", toString p.updatedAt.toInt)]

end Profile

/-- A role of a user and what it permits. -/
structure Role where
  id : String
  name : String
  permissions : List String
deriving DecidableEq

/-- The one role that a profile tells of; it lists no permissions. -/
def Profile.roles (p : Profile) : List Role :=
  [{ id := p.id, name := p.role, permissions := [] }]

end SignOn
