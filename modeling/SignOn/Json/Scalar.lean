import SignOn.Json.Lexeme

/-!
Readers of scalars: text, true or false, whole numbers of 64 bits, and any of
these or null.
-/

namespace SignOn.Json.Reader

/-- A reader of the values whose front `pick` accepts. -/
def scalar {α : Type} (wanted : Wanted) (pick : Lexeme → Option (Except Cause α)) : Reader α where
  run s :=
    match Lexeme.read s with
    | .error e => .error e
    | .ok (l, rest) =>
      match pick l with
      | some (.ok a) => .ok (a, rest)
      | some (.error c) => .error (.here c rest)
      | none => .error (l.refuse rest wanted)
  shrinks {s a rest} h := by
    split at h
    · cases h
    · next hl =>
      split at h <;> cases h
      exact Lexeme.read_shrinks hl

def text : Reader String :=
  scalar .text fun
    | .text s => some (.ok s)
    | _ => none

def flag : Reader Bool :=
  scalar .flag fun
    | .flag b => some (.ok b)
    | _ => none

/-- A whole number of 64 bits without a sign. -/
def natural : Reader UInt64 :=
  scalar .natural fun
    | .number (.integer n) =>
      some (if 0 ≤ n && n < UInt64.size then .ok (UInt64.ofNat n.toNat)
        else .error (.outOfRange n .natural))
    | _ => none

/-- A whole number of 64 bits with a sign. -/
def integer : Reader Int64 :=
  scalar .integer fun
    | .number (.integer n) =>
      some (if Int64.minValue.toInt ≤ n && n ≤ Int64.maxValue.toInt then .ok (Int64.ofInt n)
        else .error (.outOfRange n .integer))
    | _ => none

/-- What `r` reads, or nothing for null. -/
def optional {α : Type} (r : Reader α) : Reader (Option α) where
  run s :=
    match dropBlank s with
    | [] => .error (.here .endInValue [])
    | b :: rest =>
      if b = 0x6E then .of none (letters ull rest)
      else Reading.map some (r.run s)
  shrinks {s a rest} h := by
    split at h
    · cases h
    · next hs =>
      split at h
      · exact Nat.lt_of_le_of_lt (letters_length (Reading.of_eq_ok h)) (dropBlank_length_cons hs)
      · obtain ⟨_, hr, _⟩ := Reading.map_eq_ok h
        exact r.shrinks hr

end SignOn.Json.Reader
