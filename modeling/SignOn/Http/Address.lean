import SignOn.Http.UserInfo
import SignOn.Text.Blank

/-!
Addresses of the web, as far as it takes to find the host: it stands behind the
scheme, whatever number of slashes there is between them, and behind the user
information if there is any. What else the HTTP library makes of an address
(whether it can be read at all, the spelling of the host, escapes in the path)
is not described here.
-/

namespace SignOn.Address

/-- Passed over wherever it stands in an address. -/
def isSkipped (c : Char) : Bool := c == '\t' || c == '\n' || c == '\r'

/-- Either kind of slash. -/
def isSlash (c : Char) : Bool := c == '/' || c == '\\'

/-- What ends the host, with all that goes with it. -/
def endsHost (c : Char) : Bool := isSlash c || c == '?' || c == '#'

/-- The schemes of the web. -/
def schemes : List String := ["http:", "https:"]

/-- The scheme, and what stands behind it. -/
def split? (address : String) : Option (String × List Char) :=
  let text := address.toList.filter (!isSkipped ·)
  (schemes.find? fun scheme => scheme.toList.isPrefixOf text).map fun scheme =>
    (scheme, text.drop scheme.length)

/-! What follows is about the text behind a scheme and its slashes. -/

/-- The host and its port, with the user information in front of it. -/
def authority (text : List Char) : List Char := text.takeWhile (!endsHost ·)

/-- The user information, which ends with the last sign that could end it. -/
def user (text : List Char) : List Char := (Text.dropEnd (· != '@') (authority text)).dropLast

def host (text : List Char) : List Char :=
  ((authority text).reverse.takeWhile (· != '@')).reverse

/-- The text without its user information. Without a host it cannot be read, and
stays as it is. -/
def sansUser (text : List Char) : List Char :=
  if !(host text).isEmpty && UserInfo.isTaken (user text) then
    host text ++ text.dropWhile (!endsHost ·)
  else text

/-- The address that is requested: two slashes before the host, and no user
information. -/
def canonical (address : String) : String :=
  match split? address with
  | some (scheme, rest) => scheme ++ "//" ++ String.ofList (sansUser (rest.dropWhile isSlash))
  | none => address

/-- The host of an address, with its port. -/
def host? (address : String) : Option String :=
  (split? address).map fun p => String.ofList (host (p.2.dropWhile isSlash))

/-- The user information of an address. -/
def userInfo? (address : String) : Option UserInfo :=
  match split? address with
  | some (_, rest) =>
    let text := rest.dropWhile isSlash
    if (host text).isEmpty then none else UserInfo.read? (user text)
  | none => none

end SignOn.Address
