/-!
Values of headers. What is sent must be free of controls other than the tab;
what is received is readable if it is plain ASCII.
-/

namespace SignOn.Header

def isLegalChar (c : Char) : Bool := (0x20 ≤ c.toNat && c.toNat != 0x7F) || c == '\t'

/-- Whether a value can be sent. -/
def isLegal (value : String) : Bool := value.toList.all isLegalChar

def isPlainChar (c : Char) : Bool := (0x20 ≤ c.toNat && c.toNat < 0x7F) || c == '\t'

/-- Whether a received value can be read as text. -/
def isReadable (value : String) : Bool := value.toList.all isPlainChar

/-- Names are compared without regard to case. -/
def sameName (a b : String) : Bool := a.toList.map Char.toLower == b.toList.map Char.toLower

/-- The first value under a name. -/
def first? (name : String) (headers : List (String × String)) : Option String :=
  (headers.find? fun h => sameName h.1 name).map (·.2)

end SignOn.Header
