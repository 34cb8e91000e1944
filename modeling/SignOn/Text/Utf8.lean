/-!
UTF-8 over lists of bytes. A text is cut into pieces: whole characters, and
longest runs of bytes that begin a character and cannot finish it. Strict
reading accepts only whole characters; lenient reading puts U+FFFD for every
broken piece.
-/

namespace SignOn.Utf8

/-- The bytes of a text. -/
def encode (s : String) : List UInt8 := s.toList.flatMap String.utf8EncodeChar

/-- A whole character, or a broken run of the given length. -/
inductive Piece
  | whole (c : Char)
  | broken (size : Nat)
deriving DecidableEq

def Piece.size : Piece → Nat
  | .whole c => c.utf8Size
  | .broken n => n

/-- A character under way: its payload so far, the bytes read and still owed,
and the range in which the next byte must lie. -/
structure Begun where
  code : Nat
  taken : Nat
  owed : Nat
  low : UInt8 := 0x80
  high : UInt8 := 0xBF
deriving DecidableEq

/-- What a first byte opens. The second byte is narrower after four first
bytes: this excludes overlong forms, surrogates and all above U+10FFFF. -/
def start (a : UInt8) : Piece ⊕ Begun :=
  let n := a.toNat
  if a < 0x80 then .inl (.whole (Char.ofNat n))
  else if a < 0xC2 then .inl (.broken 1)
  else if a < 0xE0 then .inr { code := n % 32, taken := 1, owed := 1 }
  else if a = 0xE0 then .inr { code := n % 16, taken := 1, owed := 2, low := 0xA0 }
  else if a = 0xED then .inr { code := n % 16, taken := 1, owed := 2, high := 0x9F }
  else if a < 0xF0 then .inr { code := n % 16, taken := 1, owed := 2 }
  else if a = 0xF0 then .inr { code := n % 8, taken := 1, owed := 3, low := 0x90 }
  else if a = 0xF4 then .inr { code := n % 8, taken := 1, owed := 3, high := 0x8F }
  else if a < 0xF4 then .inr { code := n % 8, taken := 1, owed := 3 }
  else .inl (.broken 1)

/-- A first byte after the given pieces. -/
def opened (before : List Piece) (a : UInt8) : List Piece × Option Begun :=
  match start a with
  | .inl piece => (before ++ [piece], none)
  | .inr p => (before, some p)

/-- The pieces that a byte completes, and the character it leaves under way. -/
def feed : Option Begun → UInt8 → List Piece × Option Begun
  | none, a => opened [] a
  | some p, b =>
    if p.low ≤ b && b ≤ p.high then
      let code := p.code * 64 + b.toNat % 64
      if p.owed ≤ 1 then ([.whole (Char.ofNat code)], none)
      else ([], some { code, taken := p.taken + 1, owed := p.owed - 1 })
    else opened [.broken p.taken] b

/-- The pieces of a text, continuing the character under way. -/
def piecesFrom : Option Begun → List UInt8 → List Piece
  | none, [] => []
  | some p, [] => [.broken p.taken]
  | held, b :: rest => (feed held b).1 ++ piecesFrom (feed held b).2 rest

/-- Cuts a text into whole characters and longest broken runs. -/
def pieces (bytes : List UInt8) : List Piece := piecesFrom none bytes

/-- The characters of a list of pieces, if none of them is broken. -/
def wholes? : List Piece → Option (List Char)
  | [] => some []
  | .whole c :: rest => (wholes? rest).map (c :: ·)
  | .broken _ :: _ => none

/-- Strict reading. -/
def decode? (bytes : List UInt8) : Option String :=
  (wholes? (pieces bytes)).map String.ofList

/-- Lenient reading: one U+FFFD for every broken piece. -/
def decodeLenient (bytes : List UInt8) : String :=
  String.ofList <| (pieces bytes).map fun
    | .whole c => c
    | .broken _ => '\uFFFD'

/-- How many bytes there are from the first broken piece on; 0 if all is whole. -/
def spoilt (bytes : List UInt8) : Nat :=
  let tail := (pieces bytes).dropWhile fun
    | .whole _ => true
    | .broken _ => false
  tail.foldr (fun p n => p.size + n) 0

end SignOn.Utf8
