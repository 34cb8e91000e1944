import SignOn.Json.StringLiteral
import SignOn.Text.Base64

/-!
User information, which may stand in an address in front of the host: a name,
and perhaps a password behind the first colon. It does not go out with the
address but as a header of its own.
-/

namespace SignOn

structure UserInfo where
  name : String
  password : Option String
deriving DecidableEq

namespace UserInfo

/-- A percent sign with two hexadecimal digits behind it stands for a byte, and
any other byte for itself. -/
def unescape : List UInt8 → List UInt8
  | 0x25 :: a :: b :: rest =>
    match Json.StringLiteral.hexDigit? a, Json.StringLiteral.hexDigit? b with
    | some m, some n => UInt8.ofNat (m * 16 + n) :: unescape rest
    | _, _ => 0x25 :: unescape (a :: b :: rest)
  | a :: rest => a :: unescape rest
  | [] => []

/-- The name or the password, if it is a text. -/
def part? (written : List Char) : Option String :=
  Utf8.decode? (unescape (Utf8.encode (String.ofList written)))

/-- The user information that is written so. A name that is no text takes the
password with it; an empty name alone is none. -/
def read? (written : List Char) : Option UserInfo :=
  let word := (written.dropWhile (· != ':')).drop 1
  let password := if word.isEmpty then none else part? word
  match part? (written.takeWhile (· != ':')) with
  | some name => if name.isEmpty && password.isNone then none else some { name, password }
  | none => none

/-- Whether an address goes out without it: it has been read, or there is
nothing in it. -/
def isTaken (written : List Char) : Bool :=
  (read? written).isSome || written.all (· == ':') && written.length ≤ 1

/-- The value of the header. -/
def basic (u : UserInfo) : String :=
  "Basic " ++ String.ofList (Base64.encode (Utf8.encode (u.name ++ ":" ++ u.password.getD "")))

end UserInfo

end SignOn
