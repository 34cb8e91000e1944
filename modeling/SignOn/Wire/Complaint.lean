import SignOn.Json.Record
import SignOn.Json.Document

/-!
What the service says in the body of an answer that is no success. A body of
any other form says nothing at all.
-/

namespace SignOn

structure Complaint where
  message : Option String
  code : Option String
  requiresTotp : Bool
  requestId : Option String
deriving DecidableEq

namespace Complaint

/-- Nothing said. -/
def silent : Complaint := ⟨none, none, false, none⟩

def fields : List Json.Field := [
  .optional "message" Json.Reader.text,
  .optional "code" Json.Reader.text,
  .orElse "requiresTOTP" Json.Reader.flag false,
  .optional "requestId" Json.Reader.text]

def ofValues : Json.Values fields → Complaint
  | (message, code, requiresTotp, requestId, ()) => { message, code, requiresTotp, requestId }

def reader : Json.Reader Complaint := (Json.Reader.record "complaint" fields).map ofValues

def ofBody (body : List UInt8) : Complaint :=
  match Json.decode reader body with
  | .ok c => c
  | .error _ => silent

end Complaint

end SignOn
