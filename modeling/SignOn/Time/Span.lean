import SignOn.Time.Instant

/-!
Lengths of time: seconds in 64 bits and nanoseconds within the second.
Multiplying stops at the greatest length, and a length is written in the
largest unit that it reaches.
-/

namespace SignOn

structure Span where
  seconds : UInt64
  nanos : Nanos
deriving DecidableEq

namespace Span

def greatest : Span := ⟨UInt64.ofNat (UInt64.size - 1), Nanos.last⟩

def ofSeconds (s : UInt64) : Span := ⟨s, Nanos.within 0⟩

/-- All of a length in nanoseconds. -/
def totalNanos (d : Span) : Nat := d.seconds.toNat * 1000000000 + d.nanos

def mul? (a b : UInt64) : Option UInt64 :=
  if a.toNat * b.toNat < UInt64.size then some (a * b) else none

def add? (a b : UInt64) : Option UInt64 :=
  if a.toNat + b.toNat < UInt64.size then some (a + b) else none

/-- A length taken `k` times, if it can still be represented. The nanoseconds
are multiplied first, and their whole seconds are carried. -/
def times? (d : Span) (k : UInt32) : Option Span := do
  let nanos := UInt64.ofNat d.nanos * k.toUInt64
  let whole ← mul? d.seconds k.toUInt64
  let seconds ← add? whole (nanos / 1000000000)
  some ⟨seconds, Nanos.within nanos.toNat⟩

/-- A length taken `k` times, at most the greatest. -/
def times (d : Span) (k : UInt32) : Span := (d.times? k).getD greatest

/-- Whole milliseconds; those of the seconds alone may need more than 64 bits. -/
def wholeMillis (d : Span) : Nat := d.seconds.toNat * 1000 + d.nanos / 1000000

/-- Whole milliseconds if 64 bits hold them, otherwise the greatest number that they hold. -/
def millis (d : Span) : Nat :=
  if d.wholeMillis < UInt64.size then d.wholeMillis else UInt64.size - 1

/-- The digits after the point, `width` of them less the zeros at the end; no
point if none is left. -/
def fraction (width part : Nat) : String :=
  let digits := Nat.toDigits 10 part
  let padded := List.replicate (width - digits.length) '0' ++ digits
  let kept := (padded.reverse.dropWhile (· == '0')).reverse
  if kept.isEmpty then "" else "." ++ String.ofList kept

/-- A length in the largest unit that it reaches. -/
def describe (d : Span) : String :=
  let n := d.nanos.val
  if d.seconds > 0 then toString d.seconds.toNat ++ fraction 9 n ++ "s"
  else if n ≥ 1000000 then toString (n / 1000000) ++ fraction 6 (n % 1000000) ++ "ms"
  else if n ≥ 1000 then toString (n / 1000) ++ fraction 3 (n % 1000) ++ "µs"
  else toString n ++ "ns"

end Span

end SignOn
