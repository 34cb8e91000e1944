import SignOn.Json.Record
import SignOn.Json.Value
import SignOn.Text.Description

/-!
Identity documents: what is submitted for verification, and the state of it.
-/

namespace SignOn

/-- A document submitted for verification. -/
structure Submission where
  documentType : String
  documentNumber : String
  issuanceDate : String
  expirationDate : String

def Submission.toJson (d : Submission) : Json :=
  .object [
    ("documentType", .text d.documentType),
    ("documentNumber", .text d.documentNumber),
    ("issuanceDate", .text d.issuanceDate),
    ("expirationDate", .text d.expirationDate)]

/-- Whether a document is verified, of which kind, since when and until when. -/
structure DocumentStatus where
  verified : Bool
  documentType : Option String
  verifiedAt : Option Int64
  expiresAt : Option Int64
deriving DecidableEq

namespace DocumentStatus

def typeName : String := "EidStatus"

def fields : List Json.Field := [
  .required "verified" Json.Reader.flag,
  .optional "documentType" Json.Reader.text,
  .optional "verifiedAt" Json.Reader.integer,
  .optional "expiresAt" Json.Reader.integer]

def ofValues : Json.Values fields → DocumentStatus
  | (verified, documentType, verifiedAt, expiresAt, ()) =>
    { verified, documentType, verifiedAt, expiresAt }

def reader : Json.Reader DocumentStatus := (Json.Reader.record typeName fields).map ofValues

def describe (s : DocumentStatus) : String :=
  Description.record typeName [
    ("verified", Description.flag s.verified),
    ("document_type", Description.option Description.text s.documentType),
    ("verified_at", Description.option (fun i => toString i.toInt) s.verifiedAt),
    ("expires_at", Description.option (fun i => toString i.toInt) s.expiresAt)]

end DocumentStatus

end SignOn
