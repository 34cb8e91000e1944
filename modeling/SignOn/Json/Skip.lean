import SignOn.Json.Lexeme

/-!
Values that nobody asked for. They must be well formed and are read no
further: no string is decoded and no number is too great. Brackets are kept on
a stack, so nesting has no limit.
-/

namespace SignOn.Json.Skip

inductive Bracket
  | list
  | object

/-- What is due next: a value, the first thing behind an opening bracket, or
what may follow a complete value. -/
inductive Due
  | value
  | first
  | next

/-- Brackets open around the point reached, innermost first, what is due
there, and the text that is left. -/
structure Point where
  brackets : List Bracket
  due : Due
  rest : List UInt8

/-- A value, or the bracket that opens one. -/
def value (brackets : List Bracket) (s : List UInt8) : Except Fault Point :=
  let scalar := fun r : Except Fault (List UInt8) =>
    r.map fun rest => { brackets, due := .next, rest }
  match dropBlank s with
  | [] => .error (.here .endInValue [])
  | b :: rest =>
    if b = 0x6E then scalar (letters ull rest)
    else if b = 0x74 then scalar (letters rue rest)
    else if b = 0x66 then scalar (letters alse rest)
    else if b = Byte.quote then scalar (StringLiteral.skip rest)
    else if b = Byte.openList then .ok { brackets := .list :: brackets, due := .first, rest }
    else if b = Byte.openObject then .ok { brackets := .object :: brackets, due := .first, rest }
    else if Numeral.startsWith b then scalar (Numeral.skip (b :: rest))
    else .error (.onNext .noValue (b :: rest))

/-- The colon between a name and its value. -/
def colon (s : List UInt8) : Except Fault (List UInt8) :=
  match dropBlank s with
  | [] => .error (.here .endInObject [])
  | b :: rest => if b = Byte.colon then .ok rest else .error (.onNext .noColon (b :: rest))

/-- A name and its colon; a value is due behind them. -/
def name (brackets : List Bracket) (s : List UInt8) : Except Fault Point :=
  match dropBlank s with
  | [] => .error (.here .endInObject [])
  | b :: rest =>
    if b = Byte.quote then
      ((StringLiteral.skip rest).bind colon).map fun rest => { brackets, due := .value, rest }
    else .error (.onNext .nameNotText (b :: rest))

/-- The inside of the innermost bracket: its end, or what may come next there.
Behind an opening bracket no comma is due. -/
def inside (bracket : Bracket) (outer : List Bracket) (isFirst : Bool) (s : List UInt8) :
    Except Fault Point :=
  match bracket, dropBlank s with
  | .list, [] => .error (.here .endInList [])
  | .object, [] => .error (.here .endInObject [])
  | .list, b :: rest =>
    if b = Byte.closeList then .ok { brackets := outer, due := .next, rest }
    else if isFirst then value (.list :: outer) (b :: rest)
    else if b = Byte.comma then .ok { brackets := .list :: outer, due := .value, rest }
    else .error (.onNext .listNotClosed (b :: rest))
  | .object, b :: rest =>
    if b = Byte.closeObject then .ok { brackets := outer, due := .next, rest }
    else if isFirst then name (.object :: outer) (b :: rest)
    else if b = Byte.comma then name (.object :: outer) rest
    else .error (.onNext .objectNotClosed (b :: rest))

/-- One step further. Outside all brackets a value is due. -/
def step (p : Point) : Except Fault Point :=
  match p.due, p.brackets with
  | .value, brackets => value brackets p.rest
  | .first, bracket :: outer => inside bracket outer true p.rest
  | .next, bracket :: outer => inside bracket outer false p.rest
  | _, [] => value [] p.rest

theorem colon_shrinks {s rest : List UInt8} (h : colon s = .ok rest) : rest.length < s.length := by
  unfold colon at h
  split at h
  · cases h
  · next hs =>
    split at h <;> cases h
    exact dropBlank_length_cons hs

theorem map_eq_ok {α β : Type} {f : α → β} {r : Except Fault α} {b : β}
    (h : r.map f = .ok b) : ∃ a, r = .ok a ∧ f a = b := by
  cases r with
  | error e => cases h
  | ok a => cases h; exact ⟨a, rfl, rfl⟩

theorem value_shrinks {brackets : List Bracket} {s : List UInt8} {q : Point}
    (h : value brackets s = .ok q) : q.rest.length < s.length := by
  simp only [value] at h
  split at h
  · cases h
  · next b tail hs =>
    have hlt := dropBlank_length_cons hs
    have hle := dropBlank_length s
    rw [hs] at hle
    repeat' split at h
    · obtain ⟨_, hr, rfl⟩ := map_eq_ok h
      exact Nat.lt_of_le_of_lt (letters_length hr) hlt
    · obtain ⟨_, hr, rfl⟩ := map_eq_ok h
      exact Nat.lt_of_le_of_lt (letters_length hr) hlt
    · obtain ⟨_, hr, rfl⟩ := map_eq_ok h
      exact Nat.lt_of_le_of_lt (letters_length hr) hlt
    · obtain ⟨_, hr, rfl⟩ := map_eq_ok h
      exact Nat.lt_trans (StringLiteral.skipFrom_shrinks hr) hlt
    · cases h; exact hlt
    · cases h; exact hlt
    · obtain ⟨_, hr, rfl⟩ := map_eq_ok h
      exact Nat.lt_of_lt_of_le (Numeral.skip_shrinks hr) hle
    · cases h

theorem name_shrinks {brackets : List Bracket} {s : List UInt8} {q : Point}
    (h : name brackets s = .ok q) : q.rest.length < s.length := by
  unfold name at h
  split at h
  · cases h
  · next hs =>
    have hlt := dropBlank_length_cons hs
    split at h
    · obtain ⟨rest, hr, rfl⟩ := map_eq_ok h
      cases ht : StringLiteral.skip _ with
      | error e => rw [ht] at hr; cases hr
      | ok mid =>
        rw [ht] at hr
        exact Nat.lt_trans (colon_shrinks hr) (Nat.lt_trans (StringLiteral.skipFrom_shrinks ht) hlt)
    · cases h

theorem inside_shrinks {bracket : Bracket} {outer : List Bracket} {isFirst : Bool}
    {s : List UInt8} {q : Point} (h : inside bracket outer isFirst s = .ok q) :
    q.rest.length < s.length := by
  unfold inside at h
  split at h
  · cases h
  · cases h
  · next hs =>
    have hlt := dropBlank_length_cons hs
    have hle := dropBlank_length s
    rw [hs] at hle
    repeat' split at h
    · cases h; exact hlt
    · exact Nat.lt_of_lt_of_le (value_shrinks h) hle
    · cases h; exact hlt
    · cases h
  · next hs =>
    have hlt := dropBlank_length_cons hs
    have hle := dropBlank_length s
    rw [hs] at hle
    repeat' split at h
    · cases h; exact hlt
    · exact Nat.lt_of_lt_of_le (name_shrinks h) hle
    · exact Nat.lt_trans (name_shrinks h) hlt
    · cases h

theorem step_shrinks {p q : Point} (h : step p = .ok q) : q.rest.length < p.rest.length := by
  unfold step at h
  split at h
  · exact value_shrinks h
  · exact inside_shrinks h
  · exact inside_shrinks h
  · exact value_shrinks h

/-- Goes on until a value is complete and no bracket is open. -/
def run (p : Point) : Except Fault (List UInt8) :=
  match h : step p with
  | .error e => .error e
  | .ok q =>
    match q.due, q.brackets with
    | .next, [] => .ok q.rest
    | _, _ => have := step_shrinks h; run q
termination_by p.rest.length

theorem run_shrinks {p : Point} {rest : List UInt8} (h : run p = .ok rest) :
    rest.length < p.rest.length := by
  fun_induction run p with
  | case1 p e hs => cases h
  | case2 p q hs hd hb => cases h; exact step_shrinks hs
  | case3 p q hs hd hb ih => exact Nat.lt_trans (ih h) (step_shrinks hs)

end Skip

/-- The rest behind a value of any kind. -/
def skip (s : List UInt8) : Except Fault (List UInt8) :=
  Skip.run { brackets := [], due := .value, rest := s }

theorem skip_shrinks {s rest : List UInt8} (h : skip s = .ok rest) : rest.length < s.length :=
  Skip.run_shrinks h

end SignOn.Json
