import SignOn.Json.StringLiteral
import SignOn.Json.Numeral

/-!
The front of a value: a whole scalar, or the bracket that opens a list or an
object. A reader that wants one kind of value reads the front first, so a
scalar of another kind is checked before it is refused.
-/

namespace SignOn.Json

inductive Lexeme
  | null
  | flag (b : Bool)
  | number (n : Number)
  | text (s : String)
  | openList
  | openObject
deriving DecidableEq

/-- The letters that have to follow the first one of a name. -/
def letters : List UInt8 → List UInt8 → Except Fault (List UInt8)
  | [], s => .ok s
  | _ :: _, [] => .error (.here .endInValue [])
  | w :: word, b :: rest => if b = w then letters word rest else .error (.here .badLiteral rest)

/-- The three names behind their first letter. -/
def ull : List UInt8 := [0x75, 0x6C, 0x6C]
def rue : List UInt8 := [0x72, 0x75, 0x65]
def alse : List UInt8 := [0x61, 0x6C, 0x73, 0x65]

def Numeral.startsWith (b : UInt8) : Bool := b == Byte.minus || isDigit b

/-- Turns what was read into a value. -/
def Reading.map {α β : Type} (f : α → β) : Reading α → Reading β
  | .ok (a, rest) => .ok (f a, rest)
  | .error e => .error e

/-- The rest with a value. -/
def Reading.of {α : Type} (a : α) : Except Fault (List UInt8) → Reading α
  | .ok rest => .ok (a, rest)
  | .error e => .error e

namespace Lexeme

def read (s : List UInt8) : Reading Lexeme :=
  match dropBlank s with
  | [] => .error (.here .endInValue [])
  | b :: rest =>
    if b = 0x6E then .of .null (letters ull rest)
    else if b = 0x74 then .of (.flag true) (letters rue rest)
    else if b = 0x66 then .of (.flag false) (letters alse rest)
    else if b = Byte.quote then (StringLiteral.read rest).map .text
    else if b = Byte.openList then .ok (.openList, rest)
    else if b = Byte.openObject then .ok (.openObject, rest)
    else if Numeral.startsWith b then (Number.read (b :: rest)).map .number
    else .error (.onNext .noValue (b :: rest))

def found : Lexeme → Found
  | .null => .null
  | .flag b => .flag b
  | .number (.integer n) => .integer n
  | .number (.float x) => .float x
  | .text s => .text s
  | .openList => .list
  | .openObject => .object

/-- How much of what was read is given back when it is refused: a bracket. -/
def returned : Lexeme → Nat
  | .openList | .openObject => 1
  | _ => 0

/-- A value of a kind that is not wanted. -/
def refuse (l : Lexeme) (rest : List UInt8) (wanted : Wanted) : Fault :=
  { cause := .wrongType l.found wanted, unread := rest.length + l.returned }

end Lexeme

theorem letters_length {word s rest : List UInt8} (h : letters word s = .ok rest) :
    rest.length ≤ s.length := by
  induction word generalizing s with
  | nil => cases h; exact Nat.le_refl _
  | cons w word ih =>
    cases s with
    | nil => cases h
    | cons b s =>
      unfold letters at h
      split at h
      · exact Nat.le_succ_of_le (ih h)
      · cases h

theorem Reading.map_eq_ok {α β : Type} {f : α → β} {r : Reading α} {b : β} {rest : List UInt8}
    (h : Reading.map f r = .ok (b, rest)) : ∃ a, r = .ok (a, rest) ∧ f a = b := by
  unfold Reading.map at h
  split at h
  · cases h; exact ⟨_, rfl, rfl⟩
  · cases h

theorem Reading.of_eq_ok {α : Type} {a b : α} {r : Except Fault (List UInt8)} {rest : List UInt8}
    (h : Reading.of a r = .ok (b, rest)) : r = .ok rest := by
  unfold Reading.of at h
  split at h
  · cases h; rfl
  · cases h

theorem Lexeme.read_shrinks {s rest : List UInt8} {l : Lexeme} (h : read s = .ok (l, rest)) :
    rest.length < s.length := by
  unfold read at h
  split at h
  · cases h
  · next b tail hs =>
    have hlt := dropBlank_length_cons hs
    have hle := dropBlank_length s
    rw [hs] at hle
    repeat' split at h
    · exact Nat.lt_of_le_of_lt (letters_length (Reading.of_eq_ok h)) hlt
    · exact Nat.lt_of_le_of_lt (letters_length (Reading.of_eq_ok h)) hlt
    · exact Nat.lt_of_le_of_lt (letters_length (Reading.of_eq_ok h)) hlt
    · obtain ⟨_, ht, _⟩ := Reading.map_eq_ok h
      exact Nat.lt_trans (StringLiteral.read_shrinks ht) hlt
    · cases h; exact hlt
    · cases h; exact hlt
    · obtain ⟨_, hn, _⟩ := Reading.map_eq_ok h
      exact Nat.lt_of_lt_of_le (Number.read_shrinks hn) hle
    · cases h

end SignOn.Json
