import SignOn.Json.Reader
import SignOn.Text.Utf8

/-!
String literals, read from behind the opening quote. A known string is
decoded: escapes stand for characters, surrogates come in pairs, and the bytes
are UTF-8. A string that nobody asked for is only followed to its end.
-/

namespace SignOn.Json.StringLiteral

/-- What a letter behind a backslash stands for. -/
def letter? (b : UInt8) : Option UInt8 :=
  if b = 0x22 || b = 0x5C || b = 0x2F then some b
  else if b = 0x62 then some 0x08
  else if b = 0x66 then some 0x0C
  else if b = 0x6E then some 0x0A
  else if b = 0x72 then some 0x0D
  else if b = 0x74 then some 0x09
  else none

def hexDigit? (b : UInt8) : Option Nat :=
  let n := b.toNat
  if 0x30 ≤ n && n ≤ 0x39 then some (n - 0x30)
  else if 0x61 ≤ n && n ≤ 0x66 then some (n - 0x61 + 10)
  else if 0x41 ≤ n && n ≤ 0x46 then some (n - 0x41 + 10)
  else none

/-- The number that hexadecimal digits denote. -/
def hex? (digits : List UInt8) : Option Nat :=
  digits.foldlM (fun n b => (hexDigit? b).map (n * 16 + ·)) 0

def isLeading (unit : Nat) : Bool := 0xD800 ≤ unit && unit ≤ 0xDBFF

def isTrailing (unit : Nat) : Bool := 0xDC00 ≤ unit && unit ≤ 0xDFFF

/-- The character of a surrogate pair. -/
def paired (lead trail : Nat) : Char :=
  Char.ofNat ((lead - 0xD800) * 0x400 + (trail - 0xDC00) + 0x10000)

/-- Where a reader stands inside a string: between characters, behind a
backslash, among the four digits of an escape (held in reverse), or behind a
leading surrogate, which a backslash and a `u` must follow. The last three
may carry a leading surrogate that waits for its partner. -/
inductive Spot
  | plain
  | escape
  | digits (lead : Option Nat) (held : List UInt8)
  | lead (unit : Nat)
  | leadEscape (unit : Nat)

/-- Four digits are complete: the character they give, or the spot from which
the partner of a surrogate is awaited. -/
def unit (lead : Option Nat) (n : Nat) : Except Cause (Char ⊕ Spot) :=
  match lead with
  | none =>
    if isLeading n then .ok (.inr (.lead n))
    else if isTrailing n then .error .loneSurrogate
    else .ok (.inl (Char.ofNat n))
  | some l => if isTrailing n then .ok (.inl (paired l n)) else .error .loneSurrogate

/-- One byte inside a string: the spot after it and the content, held in
reverse, with the bytes it adds; nothing if it closes the string; or why the
string cannot go on. -/
def step (spot : Spot) (content : List UInt8) (b : UInt8) :
    Except Cause (Option (Spot × List UInt8)) :=
  match spot with
  | .plain =>
    if b = Byte.quote then .ok none
    else if b = Byte.backslash then .ok (some (.escape, content))
    else if b < 0x20 then .error .rawControl
    else .ok (some (.plain, b :: content))
  | .escape =>
    match letter? b with
    | some c => .ok (some (.plain, c :: content))
    | none => if b = 0x75 then .ok (some (.digits none [], content)) else .error .badEscape
  | .digits lead held =>
    if held.length < 3 then .ok (some (.digits lead (b :: held), content))
    else
      match hex? (b :: held).reverse with
      | none => .error .badEscape
      | some n =>
        match unit lead n with
        | .error c => .error c
        | .ok (.inl c) => .ok (some (.plain, (String.utf8EncodeChar c).reverse ++ content))
        | .ok (.inr next) => .ok (some (next, content))
  | .lead u =>
    if b = Byte.backslash then .ok (some (.leadEscape u, content))
    else .error .brokenSurrogatePair
  | .leadEscape u =>
    if b = 0x75 then .ok (some (.digits (some u) [], content)) else .error .brokenSurrogatePair

/-- The content of a string up to its closing quote. -/
def contentFrom (spot : Spot) (content : List UInt8) : List UInt8 → Reading (List UInt8)
  | [] => .error (.here .endInText [])
  | b :: rest =>
    match step spot content b with
    | .ok none => .ok (content.reverse, rest)
    | .ok (some (next, more)) => contentFrom next more rest
    | .error c => .error (.here c rest)

/-- A known string. Content that is not UTF-8 is reported just behind its last
good byte, counting back over the content from the closing quote. -/
def read (s : List UInt8) : Reading String :=
  match contentFrom .plain [] s with
  | .error e => .error e
  | .ok (content, rest) =>
    match Utf8.decode? content with
    | some t => .ok (t, rest)
    | none =>
      .error { cause := .notUnicode, unread := rest.length, back := Utf8.spoilt content }

/-- Where one stands in a string that is only followed to its end. -/
inductive Course
  | plain
  | escape
  | digits (held : List UInt8)

/-- The rest behind the closing quote of a string that nobody asked for. -/
def skipFrom : Course → List UInt8 → Except Fault (List UInt8)
  | _, [] => .error (.here .endInText [])
  | .plain, b :: rest =>
    if b = Byte.quote then .ok rest
    else if b = Byte.backslash then skipFrom .escape rest
    else if b < 0x20 then .error (.here .rawControl (b :: rest))
    else skipFrom .plain rest
  | .escape, b :: rest =>
    if (letter? b).isSome then skipFrom .plain rest
    else if b = 0x75 then skipFrom (.digits []) rest
    else .error (.here .badEscape rest)
  | .digits held, b :: rest =>
    if held.length < 3 then skipFrom (.digits (b :: held)) rest
    else if (hex? (b :: held).reverse).isSome then skipFrom .plain rest
    else .error (.here .badEscape rest)

def skip (s : List UInt8) : Except Fault (List UInt8) := skipFrom .plain s

theorem contentFrom_shrinks {spot : Spot} {acc s content rest : List UInt8}
    (h : contentFrom spot acc s = .ok (content, rest)) : rest.length < s.length := by
  induction s generalizing spot acc with
  | nil => cases h
  | cons b s ih =>
    unfold contentFrom at h
    split at h
    · cases h; exact Nat.lt_succ_self _
    · exact Nat.lt_succ_of_lt (ih h)
    · cases h

theorem read_shrinks {s rest : List UInt8} {t : String} (h : read s = .ok (t, rest)) :
    rest.length < s.length := by
  unfold read at h
  split at h
  · cases h
  · next hc =>
    split at h
    · cases h; exact contentFrom_shrinks hc
    · cases h

theorem skipFrom_shrinks {course : Course} {s rest : List UInt8}
    (h : skipFrom course s = .ok rest) : rest.length < s.length := by
  induction s generalizing course with
  | nil => cases course <;> cases h
  | cons b s ih =>
    cases course <;> rw [skipFrom] at h <;> repeat' split at h
    all_goals first
      | exact Nat.lt_succ_of_lt (ih h)
      | (cases h <;> exact Nat.lt_succ_self _)

end SignOn.Json.StringLiteral
