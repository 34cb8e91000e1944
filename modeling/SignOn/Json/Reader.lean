import SignOn.Json.Fault

/-!
Readers work on the text that is left. A reader takes something off the front
and returns it with the rest, which is always shorter; a loop of readers ends
for that reason.
-/

namespace SignOn.Json

/-- The bytes that give a document its structure. -/
abbrev Byte.quote : UInt8 := 0x22
abbrev Byte.plus : UInt8 := 0x2B
abbrev Byte.comma : UInt8 := 0x2C
abbrev Byte.minus : UInt8 := 0x2D
abbrev Byte.point : UInt8 := 0x2E
abbrev Byte.colon : UInt8 := 0x3A
abbrev Byte.openList : UInt8 := 0x5B
abbrev Byte.backslash : UInt8 := 0x5C
abbrev Byte.closeList : UInt8 := 0x5D
abbrev Byte.openObject : UInt8 := 0x7B
abbrev Byte.closeObject : UInt8 := 0x7D

/-- Blanks between the parts of a document: space, tab, line feed, return. -/
def isBlank (b : UInt8) : Bool := b == 0x20 || b == 0x09 || b == 0x0A || b == 0x0D

def dropBlank (s : List UInt8) : List UInt8 := s.dropWhile isBlank

/-- What was read with the rest of the text, or why nothing was. -/
abbrev Reading (α : Type) := Except Fault (α × List UInt8)

structure Reader (α : Type) where
  run : List UInt8 → Reading α
  /-- Something is always taken. -/
  shrinks : ∀ {s a rest}, run s = .ok (a, rest) → rest.length < s.length

theorem dropBlank_length (s : List UInt8) : (dropBlank s).length ≤ s.length :=
  (List.dropWhile_sublist _).length_le

theorem dropBlank_length_cons {s rest : List UInt8} {b : UInt8} (h : dropBlank s = b :: rest) :
    rest.length < s.length := by
  have := dropBlank_length s
  rw [h, List.length_cons] at this
  omega

namespace Reader

/-- Reads with `r` and turns the value into another. -/
def map {α β : Type} (f : α → β) (r : Reader α) : Reader β where
  run s :=
    match r.run s with
    | .ok (a, rest) => .ok (f a, rest)
    | .error e => .error e
  shrinks {s a rest} h := by
    split at h
    · next hr => cases h; exact r.shrinks hr
    · cases h

end Reader

end SignOn.Json
