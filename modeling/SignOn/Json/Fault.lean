import SignOn.Text.Quoted
import SignOn.Decimal.Shortest

/-!
Why a document cannot be read. A cause says what is wrong; a fault adds where,
as the number of bytes left unread; an error is a fault placed in its document
by line and column.
-/

namespace SignOn.Json

/-- What stands where something else was wanted. -/
inductive Found
  | null
  | flag (b : Bool)
  | integer (n : Int)
  | float (x : Float)
  | text (s : String)
  | list
  | object
deriving DecidableEq

/-- What was wanted. -/
inductive Wanted
  | text
  | flag
  | natural
  | integer
  | list
  | record (name : String)
deriving DecidableEq

inductive Cause
  | endInValue
  | endInList
  | endInObject
  | endInText
  | noColon
  | listNotClosed
  | objectNotClosed
  | badLiteral
  | noValue
  | badEscape
  | badNumber
  | numberTooGreat
  | notUnicode
  | rawControl
  | nameNotText
  | loneSurrogate
  | brokenSurrogatePair
  | commaAtEnd
  | moreAfterEnd
  | wrongType (found : Found) (wanted : Wanted)
  | outOfRange (n : Int) (wanted : Wanted)
  | wrongLength (count : Nat) (record : String) (fields : Nat)
  | missing (name : String)
  | twice (name : String)
deriving DecidableEq

/-- Three kinds of failure: the text stops early, it is not JSON, or it is JSON
of another shape. -/
inductive Kind
  | cut
  | malformed
  | mismatched
deriving DecidableEq

def Cause.kind : Cause → Kind
  | .endInValue | .endInList | .endInObject | .endInText => .cut
  | .wrongType .. | .outOfRange .. | .wrongLength .. | .missing .. | .twice .. => .mismatched
  | _ => .malformed

def Found.describe : Found → String
  | .null => "null"
  | .flag b => "boolean `" ++ (if b then "true" else "false") ++ "`"
  | .integer n => "integer `" ++ toString n ++ "`"
  | .float x => "floating point `" ++ Decimal.describe x ++ "`"
  | .text s => "string " ++ Text.quote s
  | .list => "sequence"
  | .object => "map"

def Wanted.describe : Wanted → String
  | .text => "a string"
  | .flag => "a boolean"
  | .natural => "u64"
  | .integer => "i64"
  | .list => "a sequence"
  | .record name => "struct " ++ name

def Cause.describe : Cause → String
  | .endInValue => "EOF while parsing a value"
  | .endInList => "EOF while parsing a list"
  | .endInObject => "EOF while parsing an object"
  | .endInText => "EOF while parsing a string"
  | .noColon => "expected `:`"
  | .listNotClosed => "expected `,` or `]`"
  | .objectNotClosed => "expected `,` or `\x7d`"
  | .badLiteral => "expected ident"
  | .noValue => "expected value"
  | .badEscape => "invalid escape"
  | .badNumber => "invalid number"
  | .numberTooGreat => "number out of range"
  | .notUnicode => "invalid unicode code point"
  | .rawControl => "control character (\\u0000-\\u001F) found while parsing a string"
  | .nameNotText => "key must be a string"
  | .loneSurrogate => "lone leading surrogate in hex escape"
  | .brokenSurrogatePair => "unexpected end of hex escape"
  | .commaAtEnd => "trailing comma"
  | .moreAfterEnd => "trailing characters"
  | .wrongType found wanted =>
    "invalid type: " ++ found.describe ++ ", expected " ++ wanted.describe
  | .outOfRange n wanted =>
    "invalid value: " ++ (Found.integer n).describe ++ ", expected " ++ wanted.describe
  | .wrongLength count record fields =>
    "invalid length " ++ toString count ++ ", expected struct " ++ record ++ " with " ++
      toString fields ++ (if fields = 1 then " element" else " elements")
  | .missing name => "missing field `" ++ name ++ "`"
  | .twice name => "duplicate field `" ++ name ++ "`"

/-- A cause with its place: the bytes unread there, and how many columns to
step back from that point. -/
structure Fault where
  cause : Cause
  unread : Nat
  back : Nat := 0
deriving DecidableEq

namespace Fault

/-- A fault in front of the rest. -/
def here (cause : Cause) (rest : List UInt8) : Fault := { cause, unread := rest.length }

/-- A fault at the first byte of the rest, which counts as read. -/
def onNext (cause : Cause) (rest : List UInt8) : Fault := { cause, unread := rest.length - 1 }

end Fault

/-- A cause with its line, from 1, and its column. -/
structure Error where
  cause : Cause
  line : Nat
  column : Nat
deriving DecidableEq

namespace Error

/-- Lines end at a line feed; the column counts the bytes since. -/
def ofFault (document : List UInt8) (f : Fault) : Error :=
  let read := document.take (document.length - f.unread)
  { cause := f.cause
    line := 1 + read.count 0x0A
    column := (read.reverse.takeWhile (· != 0x0A)).length - f.back }

def message (e : Error) : String :=
  e.cause.describe ++ " at line " ++ toString e.line ++ " column " ++ toString e.column

end Error

end SignOn.Json
