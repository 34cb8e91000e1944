/-!
JSON values and their compact text: no blanks, members in the order given,
and in strings only what must be escaped.
-/

namespace SignOn

inductive Json
  | null
  | flag (b : Bool)
  | integer (n : Int)
  | text (s : String)
  | list (items : List Json)
  | object (members : List (String × Json))

namespace Json

/-- A control character by its number. -/
def controlCode (c : Char) : List Char :=
  ['\\', 'u', '0', '0', Nat.digitChar (c.toNat / 16), Nat.digitChar (c.toNat % 16)]

/-- Quotes, backslashes and control characters are escaped, all else is not. -/
def escape (c : Char) : List Char :=
  match c with
  | '"' => ['\\', '"']
  | '\\' => ['\\', '\\']
  | '\x08' => ['\\', 'b']
  | '\x0C' => ['\\', 'f']
  | '\n' => ['\\', 'n']
  | '\r' => ['\\', 'r']
  | '\t' => ['\\', 't']
  | c => if c.toNat < 0x20 then controlCode c else [c]

def quoted (s : String) : List Char :=
  ['"'] ++ s.toList.flatMap escape ++ ['"']

def digits (n : Int) : List Char :=
  if n < 0 then '-' :: Nat.toDigits 10 n.natAbs else Nat.toDigits 10 n.natAbs

/-- Parts with commas between them. -/
def joined : List (List Char) → List Char
  | [] => []
  | [part] => part
  | part :: next :: rest => part ++ ',' :: joined (next :: rest)

mutual

/-- The compact text of a value. -/
def chars : Json → List Char
  | .null => "null".toList
  | .flag b => (if b then "true" else "false").toList
  | .integer n => digits n
  | .text s => quoted s
  | .list items => ['['] ++ joined (itemChars items) ++ [']']
  | .object members => ['\x7b'] ++ joined (memberChars members) ++ ['\x7d']

def itemChars : List Json → List (List Char)
  | [] => []
  | item :: rest => item.chars :: itemChars rest

def memberChars : List (String × Json) → List (List Char)
  | [] => []
  | (name, value) :: rest => (quoted name ++ ':' :: value.chars) :: memberChars rest

end

def render (v : Json) : String := String.ofList v.chars

mutual

/-- The same value with the members of every object in the order of their names. -/
def sorted : Json → Json
  | .list items => .list (sortedItems items)
  | .object members =>
    .object ((sortedMembers members).mergeSort fun a b => !decide (b.1 < a.1))
  | v => v

def sortedItems : List Json → List Json
  | [] => []
  | item :: rest => item.sorted :: sortedItems rest

def sortedMembers : List (String × Json) → List (String × Json)
  | [] => []
  | (name, value) :: rest => (name, value.sorted) :: sortedMembers rest

end

/-- A 64-bit signed number, or null. -/
def ofInt64? (n : Option Int64) : Json := (n.map fun i => Json.integer i.toInt).getD .null

end Json

end SignOn
