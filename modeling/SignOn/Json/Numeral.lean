import SignOn.Json.Reader

/-!
Numbers of a document. A numeral is scanned as it is written; its value is an
integer if it is written without point and exponent and 64 bits hold it, and a
double otherwise.
-/

namespace SignOn.Json

def isDigit (b : UInt8) : Bool := 0x30 ≤ b && b ≤ 0x39

def digitValue (b : UInt8) : Nat := b.toNat - 0x30

/-- A number as written: its digits before the point, behind it if there is a
point, and the sign and digits of its exponent if it has one. -/
structure Numeral where
  negative : Bool
  whole : List UInt8
  fraction : Option (List UInt8)
  exponent : Option (Bool × List UInt8)
deriving DecidableEq

inductive Number
  | integer (n : Int)
  | float (x : Float)
deriving DecidableEq

namespace Numeral

/-- The digits before the point: a single zero, or digits that start with
another one. `cut` is the cause if the text ends instead. -/
def scanWhole (cut : Cause) : List UInt8 → Reading (List UInt8)
  | [] => .error (.here cut [])
  | b :: rest =>
    if b = 0x30 then
      match rest with
      | d :: _ => if isDigit d then .error (.onNext .badNumber rest) else .ok ([b], rest)
      | [] => .ok ([b], rest)
    else if isDigit b then .ok (b :: rest.takeWhile isDigit, rest.dropWhile isDigit)
    else .error (.here .badNumber rest)

/-- A point and the digits behind it, at least one, if there is a point. -/
def scanFraction (cut : Cause) : List UInt8 → Reading (Option (List UInt8))
  | [] => .ok (none, [])
  | b :: rest =>
    if b = Byte.point then
      match rest with
      | [] => .error (.here cut [])
      | d :: more =>
        if isDigit d then .ok (some (d :: more.takeWhile isDigit), more.dropWhile isDigit)
        else .error (.onNext .badNumber rest)
    else .ok (none, b :: rest)

/-- A sign, if there is one: whether it is a minus, and the rest. -/
def scanSign : List UInt8 → Bool × List UInt8
  | [] => (false, [])
  | b :: rest =>
    if b = Byte.minus then (true, rest)
    else if b = Byte.plus then (false, rest)
    else (false, b :: rest)

/-- The exponent with its sign and its digits, at least one, if there is one. -/
def scanExponent (cut : Cause) : List UInt8 → Reading (Option (Bool × List UInt8))
  | [] => .ok (none, [])
  | b :: rest =>
    if b = 0x65 || b = 0x45 then
      match (scanSign rest).2 with
      | [] => .error (.here cut [])
      | d :: more =>
        if isDigit d then
          .ok (some ((scanSign rest).1, d :: more.takeWhile isDigit), more.dropWhile isDigit)
        else .error (.here .badNumber more)
    else .ok (none, b :: rest)

/-- The sign of the whole number. -/
def scanMinus : List UInt8 → Bool × List UInt8
  | [] => (false, [])
  | b :: rest => if b = Byte.minus then (true, rest) else (false, b :: rest)

/-- A number as written. `cut` is the cause if the text ends within it. -/
def scan (cut : Cause) (s : List UInt8) : Reading Numeral :=
  let (negative, s) := scanMinus s
  match scanWhole cut s with
  | .error e => .error e
  | .ok (whole, s) =>
    match scanFraction cut s with
    | .error e => .error e
    | .ok (fraction, s) =>
      match scanExponent cut s with
      | .error e => .error e
      | .ok (exponent, s) => .ok ({ negative, whole, fraction, exponent }, s)

/-- The rest behind a number that nobody asked for. -/
def skip (s : List UInt8) : Except Fault (List UInt8) :=
  match scan .badNumber s with
  | .error e => .error e
  | .ok (_, rest) => .ok rest

/-- Takes digits behind those of `n` as long as the number stays below the
limit; returns it with the digits that are left. -/
def gather (limit n : Nat) : List UInt8 → Nat × List UInt8
  | [] => (n, [])
  | d :: rest =>
    let next := n * 10 + digitValue d
    if next < limit then gather limit next rest else (n, d :: rest)

/-- A power of ten as the nearest double. -/
def power (k : Nat) : Float := Float.ofScientific 1 false k

/-- Divides by a power of ten, in steps that a double can hold. -/
def shrink (x : Float) (k : Nat) : Float :=
  if k ≤ 308 then x / power k
  else if x == 0 then x
  else shrink (x / power 308) (k - 308)
termination_by k

/-- A double moved by a power of ten, unless it grows out of range. -/
def scale? (x : Float) (e : Int) : Option Float :=
  if e < 0 then some (shrink x e.natAbs)
  else if e ≤ 308 then
    let y := x * power e.natAbs
    if y.isInf then none else some y
  else if x == 0 then some x
  else none

/-- The significand that 64 bits hold, the power of ten that goes with it, and
whether it is all there is: no digit left over, no point, no exponent. -/
structure Parts where
  significand : Nat
  exponent : Int
  isWhole : Bool

/-- Digits before the point that do not fit raise the power of ten; digits
behind it that fit lower it. -/
def parts (n : Numeral) : Parts :=
  let (m, left) := gather UInt64.size 0 n.whole
  let behind := n.fraction.getD []
  let (m', unused) := gather UInt64.size m behind
  { significand := m'
    exponent := (left.length : Int) - (behind.length - unused.length : Nat)
    isWhole := left.isEmpty && n.fraction.isNone && n.exponent.isNone }

/-- The value, or how many digits of the exponent are unread where the number
is found to be too great. -/
def value (n : Numeral) : Except Nat Number :=
  let p := n.parts
  let signed := fun x : Float => if n.negative then -x else x
  let float := fun e : Int =>
    match scale? (UInt64.ofNat p.significand).toFloat e with
    | some x => Except.ok (Number.float (signed x))
    | none => .error 0
  if p.isWhole then
    if !n.negative then .ok (.integer p.significand)
    else if 0 < p.significand && p.significand ≤ UInt64.size / 2 then .ok (.integer (-p.significand))
    else .ok (.float (signed (UInt64.ofNat p.significand).toFloat))
  else
    match n.exponent with
    | none => float p.exponent
    | some (negative, ds) =>
      let (e, left) := gather (UInt32.size / 2) 0 ds
      if left.isEmpty then float (p.exponent + if negative then -(e : Int) else e)
      else if p.significand = 0 || negative then .ok (.float (signed 0))
      else .error (left.length - 1)

end Numeral

/-- A number that is wanted: its value and the rest. -/
def Number.read (s : List UInt8) : Reading Number :=
  match Numeral.scan .endInValue s with
  | .error e => .error e
  | .ok (n, rest) =>
    match n.value with
    | .ok v => .ok (v, rest)
    | .error unread =>
      .error { cause := .numberTooGreat, unread := rest.length + unread }

namespace Numeral

theorem dropWhile_length (p : UInt8 → Bool) (s : List UInt8) :
    (s.dropWhile p).length ≤ s.length :=
  (List.dropWhile_sublist p).length_le

theorem scanMinus_length (s : List UInt8) : (scanMinus s).2.length ≤ s.length := by
  unfold scanMinus
  split
  · exact Nat.le_refl _
  · split <;> simp

theorem scanSign_length (s : List UInt8) : (scanSign s).2.length ≤ s.length := by
  unfold scanSign
  split
  · exact Nat.le_refl _
  · repeat' split
    all_goals simp

theorem scanWhole_shrinks {cut : Cause} {s ds rest : List UInt8}
    (h : scanWhole cut s = .ok (ds, rest)) : rest.length < s.length := by
  unfold scanWhole at h
  split at h
  · cases h
  · next b s =>
    split at h
    · split at h
      · split at h <;> cases h
        exact Nat.lt_succ_self _
      · cases h; exact Nat.lt_succ_self _
    · split at h <;> cases h
      exact Nat.lt_succ_of_le (dropWhile_length isDigit s)

theorem scanFraction_length {cut : Cause} {s rest : List UInt8} {f : Option (List UInt8)}
    (h : scanFraction cut s = .ok (f, rest)) : rest.length ≤ s.length := by
  unfold scanFraction at h
  split at h
  · cases h; exact Nat.le_refl _
  · split at h
    · split at h
      · cases h
      · next d more =>
        have := dropWhile_length isDigit more
        split at h
        · cases h; simp only [List.length_cons]; omega
        · cases h
    · cases h; exact Nat.le_refl _

theorem scanExponent_length {cut : Cause} {s rest : List UInt8} {e : Option (Bool × List UInt8)}
    (h : scanExponent cut s = .ok (e, rest)) : rest.length ≤ s.length := by
  unfold scanExponent at h
  split at h
  · cases h; exact Nat.le_refl _
  · next b s =>
    split at h
    · split at h
      · cases h
      · next d more hm =>
        have hs := scanSign_length s
        have := dropWhile_length isDigit more
        rw [hm] at hs
        simp only [List.length_cons] at hs ⊢
        split at h
        · cases h; omega
        · cases h
    · cases h; exact Nat.le_refl _

theorem scan_shrinks {cut : Cause} {s rest : List UInt8} {n : Numeral}
    (h : scan cut s = .ok (n, rest)) : rest.length < s.length := by
  have hm := scanMinus_length s
  simp only [scan] at h
  split at h
  · cases h
  · next hw =>
    have hw := scanWhole_shrinks hw
    split at h
    · cases h
    · next hf =>
      have hf := scanFraction_length hf
      split at h
      · cases h
      · next he =>
        have he := scanExponent_length he
        cases h
        omega

theorem skip_shrinks {s rest : List UInt8} (h : skip s = .ok rest) : rest.length < s.length := by
  unfold skip at h
  split at h
  · cases h
  · next hs => cases h; exact scan_shrinks hs

end Numeral

theorem Number.read_shrinks {s rest : List UInt8} {n : Number}
    (h : Number.read s = .ok (n, rest)) : rest.length < s.length := by
  unfold Number.read at h
  split at h
  · cases h
  · next hs =>
    split at h
    · cases h; exact Numeral.scan_shrinks hs
    · cases h

end SignOn.Json
