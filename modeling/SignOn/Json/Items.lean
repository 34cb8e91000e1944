import SignOn.Json.Scalar

/-!
Lists. Items stand between brackets with a comma between two of them and none
behind the last.
-/

namespace SignOn.Json

namespace Items

/-- The text at the next item of a list, or nothing in front of its closing
bracket. -/
def nextItem (isFirst : Bool) (s : List UInt8) : Except Fault (Option (List UInt8)) :=
  match dropBlank s with
  | [] => .error (.here .endInList [])
  | b :: rest =>
    if b = Byte.closeList then .ok none
    else if isFirst then .ok (some (b :: rest))
    else if b = Byte.comma then
      match dropBlank rest with
      | [] => .error (.here .endInValue [])
      | c :: more =>
        if c = Byte.closeList then .error (.onNext .commaAtEnd (c :: more))
        else .ok (some (c :: more))
    else .error (.onNext .listNotClosed (b :: rest))

/-- The rest behind a list that may hold no more items. -/
def close (s : List UInt8) : Except Fault (List UInt8) :=
  match dropBlank s with
  | [] => .error (.here .endInList [])
  | b :: rest =>
    if b = Byte.closeList then .ok rest
    else if b = Byte.comma then
      let more := dropBlank rest
      .error (.onNext (if more.head? = some Byte.closeList then .commaAtEnd else .moreAfterEnd) more)
    else .error (.onNext .moreAfterEnd (b :: rest))

theorem nextItem_length {isFirst : Bool} {s item : List UInt8}
    (h : nextItem isFirst s = .ok (some item)) : item.length ≤ s.length := by
  unfold nextItem at h
  split at h
  · cases h
  · next b tail hs =>
    have hle := dropBlank_length s
    rw [hs] at hle
    split at h
    · cases h
    · split at h
      · cases h; exact hle
      · split at h
        · split at h
          · cases h
          · next hm =>
            have hm' := dropBlank_length tail
            rw [hm] at hm'
            simp only [List.length_cons] at hle hm' ⊢
            split at h <;> cases h
            simp only [List.length_cons]; omega
        · cases h

theorem close_shrinks {s rest : List UInt8} (h : close s = .ok rest) : rest.length < s.length := by
  unfold close at h
  split at h
  · cases h
  · next hs =>
    split at h
    · cases h; exact dropBlank_length_cons hs
    · split at h <;> cases h

end Items

namespace Reader

/-- The items of a list up to its closing bracket; those read are held in reverse. -/
def listFrom {α : Type} (r : Reader α) (isFirst : Bool) (held : List α) (s : List UInt8) :
    Reading (List α) :=
  match hi : Items.nextItem isFirst s with
  | .error e => .error e
  | .ok none => .of held.reverse (Items.close s)
  | .ok (some item) =>
    match hr : r.run item with
    | .error e => .error e
    | .ok (a, rest) =>
      have := Nat.lt_of_lt_of_le (r.shrinks hr) (Items.nextItem_length hi)
      listFrom r false (a :: held) rest
termination_by s.length

theorem listFrom_shrinks {α : Type} {r : Reader α} {isFirst : Bool} {held as : List α}
    {s rest : List UInt8} (h : listFrom r isFirst held s = .ok (as, rest)) :
    rest.length < s.length := by
  fun_induction listFrom r isFirst held s with
  | case1 => cases h
  | case2 => exact Items.close_shrinks (Reading.of_eq_ok h)
  | case3 => cases h
  | case4 isFirst held s item hi a mid hr _ ih =>
    exact Nat.lt_trans (ih h) (Nat.lt_of_lt_of_le (r.shrinks hr) (Items.nextItem_length hi))

/-- A list of values that `r` reads. -/
def list {α : Type} (r : Reader α) : Reader (List α) where
  run s :=
    match Lexeme.read s with
    | .error e => .error e
    | .ok (.openList, rest) => listFrom r true [] rest
    | .ok (l, rest) => .error (l.refuse rest .list)
  shrinks {s a rest} h := by
    split at h
    · cases h
    · next hl => exact Nat.lt_trans (listFrom_shrinks h) (Lexeme.read_shrinks hl)
    · cases h

end Reader

end SignOn.Json
