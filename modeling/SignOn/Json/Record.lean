import SignOn.Json.Items
import SignOn.Json.Skip

/-!
Records. A record is an object whose members are found by name, in any order
and among others, or a list that holds its fields in their order. A field that
is not given takes what stands for it, if anything does.
-/

namespace SignOn.Json

/-- A field: its name, how it is read, and what stands for it if it is not given. -/
structure Field where
  name : String
  Carrier : Type
  reader : Reader Carrier
  absent : Option Carrier

/-- A field that has to be given. -/
def Field.required {α : Type} (name : String) (reader : Reader α) : Field :=
  ⟨name, α, reader, none⟩

/-- A field for which `a` stands if it is not given. -/
def Field.orElse {α : Type} (name : String) (reader : Reader α) (a : α) : Field :=
  ⟨name, α, reader, some a⟩

/-- A field that may be null and may be left out, which says the same. -/
def Field.optional {α : Type} (name : String) (reader : Reader α) : Field :=
  .orElse name reader.optional none

/-- A value for every field. -/
@[reducible] def Values : List Field → Type
  | [] => Unit
  | f :: fs => f.Carrier × Values fs

/-- A place for every field, empty until its value is read. -/
@[reducible] def Slots : List Field → Type
  | [] => Unit
  | f :: fs => Option f.Carrier × Slots fs

namespace Slots

def empty : (fs : List Field) → Slots fs
  | [] => ()
  | _ :: fs => (none, empty fs)

/-- The values, once no more are to come; the first field that lacks one is
reported. -/
def complete : (fs : List Field) → Slots fs → Except Cause (Values fs)
  | [], () => .ok ()
  | f :: fs, (slot, slots) =>
    match slot.or f.absent with
    | none => .error (.missing f.name)
    | some a => (complete fs slots).map (a, ·)

end Slots

/-- A cause that is noticed late: the fault stands behind the closing bracket
if that comes next. -/
def Fault.behind (cause : Cause) (close : UInt8) (s : List UInt8) : Fault :=
  match dropBlank s with
  | [] => .here cause []
  | b :: rest => if b = close then .here cause rest else .here cause (b :: rest)

namespace Record

/-- Reads what follows a name: a colon and the value, which goes to the slot of
that name. Without such a slot it is skipped. -/
def fill : (fs : List Field) → String → Slots fs → List UInt8 → Reading (Slots fs)
  | [], _, (), s => .of () ((Skip.colon s).bind skip)
  | f :: fs, name, (slot, slots), s =>
    if name = f.name then
      match slot with
      | some _ => .error (.behind (.twice name) Byte.closeObject s)
      | none =>
        match Skip.colon s with
        | .error e => .error e
        | .ok rest => Reading.map (fun a => (some a, slots)) (f.reader.run rest)
    else Reading.map (fun more => (slot, more)) (fill fs name slots s)

/-- The next name in an object, or nothing behind its closing bracket. -/
def nextName (isFirst : Bool) (s : List UInt8) : Reading (Option String) :=
  match dropBlank s with
  | [] => .error (.here .endInObject [])
  | b :: rest =>
    if b = Byte.closeObject then .ok (none, rest)
    else if isFirst then
      if b = Byte.quote then Reading.map some (StringLiteral.read rest)
      else .error (.onNext .nameNotText (b :: rest))
    else if b = Byte.comma then
      match dropBlank rest with
      | [] => .error (.here .endInValue [])
      | c :: more =>
        if c = Byte.quote then Reading.map some (StringLiteral.read more)
        else if c = Byte.closeObject then .error (.onNext .commaAtEnd (c :: more))
        else .error (.onNext .nameNotText (c :: more))
    else .error (.onNext .objectNotClosed (b :: rest))

/-- The fields of a record from the item with the given index on. -/
def items (name : String) (total : Nat) :
    (fs : List Field) → (index : Nat) → List UInt8 → Reading (Values fs)
  | [], _, s => .ok ((), s)
  | f :: fs, index, s =>
    match Items.nextItem (index == 0) s with
    | .error e => .error e
    | .ok (some item) =>
      match f.reader.run item with
      | .error e => .error e
      | .ok (a, rest) => Reading.map (a, ·) (items name total fs (index + 1) rest)
    | .ok none =>
      match f.absent with
      | some a => Reading.map (a, ·) (items name total fs (index + 1) s)
      | none => .error (.behind (.wrongLength index name total) Byte.closeList s)

theorem nextName_shrinks {isFirst : Bool} {s rest : List UInt8} {name : Option String}
    (h : nextName isFirst s = .ok (name, rest)) : rest.length < s.length := by
  unfold nextName at h
  split at h
  · cases h
  · next b tail hs =>
    have hlt := dropBlank_length_cons hs
    split at h
    · cases h; exact hlt
    · split at h
      · split at h
        · obtain ⟨_, ht, _⟩ := Reading.map_eq_ok h
          exact Nat.lt_trans (StringLiteral.read_shrinks ht) hlt
        · cases h
      · split at h
        · split at h
          · cases h
          · next hm =>
            have hm := dropBlank_length_cons hm
            repeat' split at h
            · obtain ⟨_, ht, _⟩ := Reading.map_eq_ok h
              exact Nat.lt_trans (StringLiteral.read_shrinks ht) (Nat.lt_trans hm hlt)
            · cases h
            · cases h
        · cases h

theorem fill_shrinks {fs : List Field} {name : String} {slots filled : Slots fs}
    {s rest : List UInt8} (h : fill fs name slots s = .ok (filled, rest)) :
    rest.length < s.length := by
  induction fs with
  | nil =>
    have h := Reading.of_eq_ok h
    cases hc : Skip.colon s with
    | error e => rw [hc] at h; cases h
    | ok mid =>
      rw [hc] at h
      exact Nat.lt_trans (skip_shrinks h) (Skip.colon_shrinks hc)
  | cons f fs ih =>
    obtain ⟨slot, slots⟩ := slots
    simp only [fill] at h
    split at h
    · split at h
      · cases h
      · split at h
        · cases h
        · next hc =>
          obtain ⟨_, hr, _⟩ := Reading.map_eq_ok h
          exact Nat.lt_trans (f.reader.shrinks hr) (Skip.colon_shrinks hc)
    · obtain ⟨_, hr, _⟩ := Reading.map_eq_ok h
      exact ih hr

/-- The members of an object up to its closing bracket. -/
def members (fs : List Field) (isFirst : Bool) (slots : Slots fs) (s : List UInt8) :
    Reading (Slots fs) :=
  match hn : nextName isFirst s with
  | .error e => .error e
  | .ok (none, rest) => .ok (slots, rest)
  | .ok (some name, value) =>
    match hv : fill fs name slots value with
    | .error e => .error e
    | .ok (filled, rest) =>
      have := Nat.lt_trans (fill_shrinks hv) (nextName_shrinks hn)
      members fs false filled rest
termination_by s.length

theorem members_shrinks {fs : List Field} {isFirst : Bool} {slots filled : Slots fs}
    {s rest : List UInt8} (h : members fs isFirst slots s = .ok (filled, rest)) :
    rest.length < s.length := by
  fun_induction members fs isFirst slots s with
  | case1 => cases h
  | case2 isFirst slots s mid hn => cases h; exact nextName_shrinks hn
  | case3 => cases h
  | case4 isFirst slots s name value hn filled mid hv _ ih =>
    exact Nat.lt_trans (ih h) (Nat.lt_trans (fill_shrinks hv) (nextName_shrinks hn))

theorem items_length {name : String} {total index : Nat} {fs : List Field} {vs : Values fs}
    {s rest : List UInt8} (h : items name total fs index s = .ok (vs, rest)) :
    rest.length ≤ s.length := by
  induction fs generalizing index s rest with
  | nil => cases h; exact Nat.le_refl _
  | cons f fs ih =>
    unfold items at h
    split at h
    · cases h
    · next hi =>
      split at h
      · cases h
      · next hr =>
        obtain ⟨_, hm, _⟩ := Reading.map_eq_ok h
        exact Nat.le_trans (ih hm)
          (Nat.le_trans (Nat.le_of_lt (f.reader.shrinks hr)) (Items.nextItem_length hi))
    · split at h
      · obtain ⟨_, hm, _⟩ := Reading.map_eq_ok h
        exact ih hm
      · cases h

/-- A record behind its opening bracket, as an object. -/
def ofObject (fs : List Field) (s : List UInt8) : Reading (Values fs) :=
  match members fs true (Slots.empty fs) s with
  | .error e => .error e
  | .ok (slots, rest) =>
    match slots.complete with
    | .ok vs => .ok (vs, rest)
    | .error c => .error (.here c rest)

/-- A record behind its opening bracket, as a list. -/
def ofList (name : String) (fs : List Field) (s : List UInt8) : Reading (Values fs) :=
  match items name fs.length fs 0 s with
  | .error e => .error e
  | .ok (vs, rest) => .of vs (Items.close rest)

end Record

namespace Reader

def record (name : String) (fs : List Field) : Reader (Values fs) where
  run s :=
    match Lexeme.read s with
    | .error e => .error e
    | .ok (.openObject, rest) => Record.ofObject fs rest
    | .ok (.openList, rest) => Record.ofList name fs rest
    | .ok (l, rest) => .error (l.refuse rest (.record name))
  shrinks {s a rest} h := by
    split at h
    · cases h
    · next hl =>
      unfold Record.ofObject at h
      split at h
      · cases h
      · next hm =>
        split at h <;> cases h
        exact Nat.lt_trans (Record.members_shrinks hm) (Lexeme.read_shrinks hl)
    · next hl =>
      unfold Record.ofList at h
      split at h
      · cases h
      · next hm =>
        exact Nat.lt_trans
          (Nat.lt_of_lt_of_le (Items.close_shrinks (Reading.of_eq_ok h)) (Record.items_length hm))
          (Lexeme.read_shrinks hl)
    · cases h

end Reader

end SignOn.Json
