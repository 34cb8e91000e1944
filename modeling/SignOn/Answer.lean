import SignOn.Exchange
import SignOn.Json.Document
import SignOn.Operation
import SignOn.Wire.Device
import SignOn.Wire.Machine
import SignOn.Wire.Profile

/-!
What comes of an operation: its result, and what it writes to the session when
it lands. Only a grant and the end of a session are written.
-/

namespace SignOn

/-- Whether someone is signed on, who it is, and until when. -/
structure Standing where
  isAuthenticated : Bool
  user : Option Profile
  expiresAt : Option Instant
deriving DecidableEq

def Standing.anonymous : Standing := ⟨false, none, none⟩

/-- What an operation gives back. -/
inductive Answer
  | done
  | flag (b : Bool)
  | standing (s : Standing)
  | profile (p : Profile)
  | roles (rs : List Role)
  | devices (ds : List Device)
  | deviceStatus (s : DeviceStatus)
  | documentStatus (s : DocumentStatus)
  | enrollment (e : Enrollment)
  | machineToken (t : MachineToken)
deriving DecidableEq

abbrev Result := Except Failure Answer

/-- Reads a body, saying in which answer it stood if that fails. -/
def decodeAs {α : Type} (context : String) (r : Json.Reader α) (body : List UInt8) :
    Except Failure α :=
  match Json.decode r body with
  | .ok a => .ok a
  | .error e => .error (.unreadable context e)

namespace Operation

/-- What comes of an operation whose token is not there: nothing is sent. -/
def withoutToken : Operation → Result × Option Session.Write
  | .logout => (.ok .done, some .clear)
  | .revoke => (.ok .done, none)
  | .current => (.ok (.standing .anonymous), none)
  | _ => (.error .signedOut, none)

/-- The answer in the body of a success, and the write that it entails. `held`
is the session as it was when the operation started. -/
def succeed (held : Session) (body : List UInt8) :
    Operation → Except Failure (Answer × Option Session.Write)
  | .login _ => do
    let grant ← decodeAs "login" Grant.reader body
    .ok (.done, some (.install grant))
  | .refresh => do
    let grant ← decodeAs "token refresh" Grant.reader body
    .ok (.done, some (.renew grant.accessToken grant.expiresIn))
  | .logout | .revoke => .ok (.done, some .clear)
  | .strengthen _ | .verifyDocument _ | .revokeDocument | .revokeMachine _ => .ok (.done, none)
  | .current => do
    let user ← decodeAs "userinfo" Profile.reader body
    .ok (.standing ⟨true, some user, held.expiresAt⟩, none)
  | .profile => do
    let p ← decodeAs "user profile" Profile.reader body
    .ok (.profile p, none)
  | .roles => do
    let p ← decodeAs "userinfo" Profile.reader body
    .ok (.roles p.roles, none)
  | .hasPermission permission => do
    let p ← decodeAs "userinfo" Profile.reader body
    .ok (.flag (p.roles.any fun role => role.permissions.contains permission), none)
  | .deviceList => do
    let ds ← decodeAs "device list" Device.listReader body
    .ok (.devices ds, none)
  | .deviceStatus => do
    let s ← decodeAs "device status" DeviceStatus.reader body
    .ok (.deviceStatus s, none)
  | .documentStatus => do
    let s ← decodeAs "EID status" DocumentStatus.reader body
    .ok (.documentStatus s, none)
  | .enroll => do
    let e ← decodeAs "machine enrollment" Enrollment.reader body
    .ok (.enrollment e, none)
  | .machineToken _ => do
    let t ← decodeAs "machine token" MachineToken.reader body
    .ok (.machineToken t, none)

/-- What comes of an operation whose request is over. The two that end a
session do so whatever the service says. -/
def land (held : Session) (op : Operation) (outcome : Outcome) : Result × Option Session.Write :=
  match op, outcome with
  | .logout, _ | .revoke, _ => (.ok .done, some .clear)
  | _, .error failure => (.error (.sending failure), none)
  | _, .ok body =>
    match op.succeed held body with
    | .ok (answer, write) => (.ok answer, write)
    | .error failure => (.error failure, none)

end Operation

end SignOn
