import SignOn.Json.Record
import SignOn.Json.Value
import SignOn.Text.Description

/-!
Devices of a user, and the state of the one in use.
-/

namespace SignOn

structure Device where
  id : String
  name : String
  kind : String
  lastSeen : Option Int64
  trusted : Bool
deriving DecidableEq

namespace Device

def typeName : String := "DeviceInfo"

def fields : List Json.Field := [
  .required "id" Json.Reader.text,
  .orElse "name" Json.Reader.text "",
  .orElse "type" Json.Reader.text "",
  .optional "lastSeen" Json.Reader.integer,
  .orElse "trusted" Json.Reader.flag false]

def ofValues : Json.Values fields → Device
  | (id, name, kind, lastSeen, trusted, ()) => { id, name, kind, lastSeen, trusted }

def reader : Json.Reader Device := (Json.Reader.record typeName fields).map ofValues

def toJson (d : Device) : Json :=
  .object [
    ("id", .text d.id),
    ("name", .text d.name),
    ("type", .text d.kind),
    ("lastSeen", .ofInt64? d.lastSeen),
    ("trusted", .flag d.trusted)]

def describe (d : Device) : String :=
  Description.record typeName [
    ("id", Description.text d.id),
    ("name", Description.text d.name),
    ("device_type", Description.text d.kind),
    ("last_seen", Description.option (fun i => toString i.toInt) d.lastSeen),
    ("trusted", Description.flag d.trusted)]

/-- All devices of a user. -/
def listReader : Json.Reader (List Device) := reader.list

end Device

/-- Whether a device can be used, which one it is, and when it was last in step. -/
structure DeviceStatus where
  available : Bool
  device : Option Device
  lastSync : Option Int64
deriving DecidableEq

namespace DeviceStatus

def typeName : String := "DeviceStatus"

def fields : List Json.Field := [
  .required "available" Json.Reader.flag,
  .optional "device" Device.reader,
  .optional "lastSync" Json.Reader.integer]

def ofValues : Json.Values fields → DeviceStatus
  | (available, device, lastSync, ()) => { available, device, lastSync }

def reader : Json.Reader DeviceStatus := (Json.Reader.record typeName fields).map ofValues

def toJson (s : DeviceStatus) : Json :=
  .object [
    ("available", .flag s.available),
    ("device", (s.device.map Device.toJson).getD .null),
    ("lastSync", .ofInt64? s.lastSync)]

def describe (s : DeviceStatus) : String :=
  Description.record typeName [
    ("available", Description.flag s.available),
    ("device", Description.option Device.describe s.device),
    ("last_sync", Description.option (fun i => toString i.toInt) s.lastSync)]

end DeviceStatus

end SignOn
