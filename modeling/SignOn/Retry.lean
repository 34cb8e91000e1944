import SignOn.Exchange
import SignOn.Time.Span

/-!
Retries. A call repeats its request, unchanged, while attempts fail in a way
that may pass and retries are left. Every retry is announced with its number,
the delay before it, and the failure that caused it; the delay grows with the
number.
-/

namespace SignOn

/-- How many retries there may be, and the delay before the first. -/
structure RetryPolicy where
  limit : UInt32
  delay : Span
deriving DecidableEq

structure Notice where
  attempt : UInt32
  delay : Span
  failure : SendFailure
deriving DecidableEq

/-- A request under way, and the retries already made. -/
structure Call where
  request : Request
  policy : RetryPolicy
  retries : UInt32 := 0

namespace Call

/-- What follows an attempt: another one, or the end. -/
inductive Next
  | again (notice : Notice) (call : Call)
  | ended (outcome : Outcome)

/-- The same call with one more retry. -/
def retried (c : Call) : Call := { c with retries := c.retries + 1 }

def notice (c : Call) (failure : SendFailure) : Notice :=
  { attempt := c.retries + 1
    delay := c.policy.delay.times (c.retries + 1)
    failure }

def next (c : Call) : Outcome → Next
  | .ok body => .ended (.ok body)
  | .error failure =>
    if failure.isRetryable && c.retries < c.policy.limit then
      .again (c.notice failure) c.retried
    else .ended (.error failure)

/-- Retries left. -/
def left (c : Call) : Nat := c.policy.limit.toNat - c.retries.toNat

/-- The count of retries never leaves its 32 bits, as the limit has no more. -/
theorem retried_retries {c : Call} (h : c.retries < c.policy.limit) :
    c.retried.retries.toNat = c.retries.toNat + 1 := by
  have hl := UInt32.lt_iff_toNat_lt.1 h
  have hm := c.policy.limit.toNat_lt
  rw [retried, UInt32.toNat_add, UInt32.toNat_one]
  exact Nat.mod_eq_of_lt (by omega)

theorem retried_left {c : Call} (h : c.retries < c.policy.limit) : c.retried.left < c.left := by
  have hl := UInt32.lt_iff_toNat_lt.1 h
  have hp : c.retried.policy = c.policy := rfl
  rw [left, left, hp, retried_retries h]
  omega

theorem next_left {c d : Call} {o : Outcome} {n : Notice} (h : c.next o = .again n d) :
    d.left < c.left := by
  unfold next at h
  split at h
  · cases h
  · split at h
    · next hc =>
      cases h
      exact retried_left (by simpa using (Bool.and_eq_true_iff.1 hc).2)
    · cases h

/-- Attempts a call until it is over, in surroundings that each attempt may
change; the notices are in the order of the retries. -/
def run {σ : Type} (attempt : Request → σ → Outcome × σ) (c : Call) (s : σ) :
    List Notice × Outcome × σ :=
  match attempt c.request s with
  | (outcome, after) =>
    match h : c.next outcome with
    | .ended outcome => ([], outcome, after)
    | .again notice call =>
      have := next_left h
      let (notices, ending) := run attempt call after
      (notice :: notices, ending)
termination_by c.left

end Call

end SignOn
