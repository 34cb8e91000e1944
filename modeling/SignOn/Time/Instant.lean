/-!
Moments of the calendar. A moment is a whole number of seconds from 1970,
either way, and the nanoseconds within that second. The calendar ends, and a
lifetime that would pass its end stops there.
-/

namespace SignOn

/-- Nanoseconds within a second. -/
abbrev Nanos := Fin 1000000000

/-- The last nanosecond of a second. -/
def Nanos.last : Nanos := 999999999

/-- What is left of `n` nanoseconds without their whole seconds. -/
def Nanos.within (n : Nat) : Nanos := Fin.ofNat _ n

structure Instant where
  seconds : Int
  nanos : Nanos
deriving DecidableEq

namespace Instant

/-- The last moment of the calendar. -/
def greatest : Instant := ⟨8210266876799, Nanos.last⟩

/-- Earlier seconds first; within a second, earlier nanoseconds first. -/
protected def le (a b : Instant) : Prop :=
  a.seconds < b.seconds ∨ (a.seconds = b.seconds ∧ a.nanos ≤ b.nanos)

instance : LE Instant := ⟨Instant.le⟩

instance (a b : Instant) : Decidable (a ≤ b) :=
  inferInstanceAs (Decidable (_ ∨ _))

/-- The most seconds that a span may have: spans are kept to the millisecond
in 64 signed bits. -/
def longestSpan : Nat := Int64.maxValue.toInt.toNat / 1000

/-- A lifetime as a signed number of seconds, if 64 bits hold it. -/
def signed? (lifetime : UInt64) : Option Int :=
  if lifetime.toNat < UInt64.size / 2 then some lifetime.toNat else none

/-- A number of seconds as a span, if it is not too long for one. -/
def span? (seconds : Int) : Option Int :=
  if seconds.natAbs ≤ longestSpan then some seconds else none

/-- A moment moved by a span, if the calendar reaches that far. -/
def plus? (t : Instant) (span : Int) : Option Instant :=
  let moved : Instant := { t with seconds := t.seconds + span }
  if moved ≤ greatest then some moved else none

/-- When something ends that starts now and lasts the given seconds. -/
def expiry (now : Instant) (lifetime : UInt64) : Instant :=
  (((signed? lifetime).bind span?).bind now.plus?).getD greatest

end Instant

end SignOn
