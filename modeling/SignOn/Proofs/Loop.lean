import SignOn.Retry
import Mathlib.Order.Bounds.Basic

/-!
The loop of attempts, over any surroundings in which attempts are made.

* `Call.next_eq_again`, `Call.next_eq_ended`: what one outcome leads to;
* `Call.run_last`: a property that every round keeps holds at the last one;
* `Call.run_lockstep`: two loops in corresponding surroundings end alike;
* `Call.run_stages`: where the loop stops, and what it has announced by then.
-/

namespace SignOn

/-- A failure after which a later attempt may succeed. -/
def mayPass : Outcome → Bool
  | .ok _ => false
  | .error failure => failure.isRetryable

theorem mayPass_iff {o : Outcome} : mayPass o ↔ ∃ e, o = .error e ∧ e.isRetryable := by
  cases o with
  | ok body => simp [mayPass]
  | error e => simp [mayPass]

namespace Call

variable {σ τ : Type}

/-! ## One round -/

theorem next_eq_again {c d : Call} {o : Outcome} {n : Notice} :
    c.next o = .again n d ↔
      ∃ e, o = .error e ∧ e.isRetryable ∧ c.retries < c.policy.limit ∧
        n = c.notice e ∧ d = c.retried := by
  cases o with
  | ok body => simp [next]
  | error e =>
    by_cases h : e.isRetryable && c.retries < c.policy.limit
    · simp only [next, h, if_true, Next.again.injEq]
      simp only [Bool.and_eq_true, decide_eq_true_eq] at h
      constructor
      · rintro ⟨rfl, rfl⟩
        exact ⟨e, rfl, h.1, h.2, rfl, rfl⟩
      · rintro ⟨e', he, _, _, rfl, rfl⟩
        cases he
        exact ⟨rfl, rfl⟩
    · simp only [next, h]
      constructor
      · intro hn
        cases hn
      · rintro ⟨e', he, hr, hl, _⟩
        cases he
        exact absurd (by simp [hr, hl]) h

theorem next_eq_ended {c : Call} {o o' : Outcome} :
    c.next o = .ended o' ↔ o' = o ∧ (mayPass o → ¬ c.retries < c.policy.limit) := by
  cases o with
  | ok body =>
    simp only [next, Next.ended.injEq, mayPass, Bool.false_eq_true, false_implies, and_true]
    exact eq_comm
  | error e =>
    by_cases h : e.isRetryable && c.retries < c.policy.limit
    · simp only [next, h, if_true]
      simp only [Bool.and_eq_true, decide_eq_true_eq] at h
      constructor
      · intro hn
        cases hn
      · rintro ⟨_, hn⟩
        exact absurd h.2 (hn h.1)
    · simp only [next, h]
      simp only [Bool.and_eq_true, decide_eq_true_eq, not_and] at h
      constructor
      · intro hn
        cases hn
        exact ⟨rfl, h⟩
      · rintro ⟨rfl, _⟩
        rfl

theorem run_ended {attempt : Request → σ → Outcome × σ} {c : Call} {s : σ} {o : Outcome}
    (h : c.next (attempt c.request s).1 = .ended o) :
    c.run attempt s = ([], o, (attempt c.request s).2) := by
  rw [run]
  split
  next outcome after ha =>
    simp only [ha] at h ⊢
    split
    · next o' hn =>
      rw [h] at hn
      cases hn
      rfl
    · next n d hn =>
      rw [h] at hn
      cases hn

theorem run_again {attempt : Request → σ → Outcome × σ} {c d : Call} {s : σ} {n : Notice}
    (h : c.next (attempt c.request s).1 = .again n d) :
    c.run attempt s =
      (n :: (d.run attempt (attempt c.request s).2).1,
        (d.run attempt (attempt c.request s).2).2) := by
  rw [run]
  split
  next outcome after ha =>
    simp only [ha] at h ⊢
    split
    · next o hn =>
      rw [h] at hn
      cases hn
    · next n' d' hn =>
      rw [h] at hn
      cases hn
      rfl

/-! ## Rules for whole loops -/

/-- What holds of a last round, and of a round before others of which it
holds, holds of every loop. -/
theorem run_rule (attempt : Request → σ → Outcome × σ)
    {P : Call → σ → List Notice × Outcome × σ → Prop}
    (ended : ∀ c s o, c.next (attempt c.request s).1 = .ended o →
      P c s ([], o, (attempt c.request s).2))
    (again : ∀ c s n d, c.next (attempt c.request s).1 = .again n d →
      P d (attempt c.request s).2 (d.run attempt (attempt c.request s).2) →
      P c s (n :: (d.run attempt (attempt c.request s).2).1,
        (d.run attempt (attempt c.request s).2).2))
    (c : Call) (s : σ) : P c s (c.run attempt s) := by
  cases h : c.next (attempt c.request s).1 with
  | ended o =>
    rw [run_ended h]
    exact ended c s o h
  | again n d =>
    have := next_left h
    rw [run_again h]
    exact again c s n d h (run_rule attempt ended again d (attempt c.request s).2)
termination_by c.left

/-- **Invariants of the loop.** What attempts keep holds before the last one,
and the loop ends with what that one yields. -/
theorem run_last (attempt : Request → σ → Outcome × σ) {I : σ → Prop} {c : Call} {s : σ}
    (keep : ∀ t, I t → I (attempt c.request t).2) (h : I s) :
    ∃ t, I t ∧ (c.run attempt s).2 = attempt c.request t := by
  refine run_rule attempt (P := fun c s out => (∀ t, I t → I (attempt c.request t).2) → I s →
    ∃ t, I t ∧ out.2 = attempt c.request t) ?_ ?_ c s keep h
  · intro c s o ho _ hi
    rw [(next_eq_ended.mp ho).1]
    exact ⟨s, hi, rfl⟩
  · intro c s n d hn ih hk hi
    obtain ⟨e, _, _, _, _, rfl⟩ := next_eq_again.mp hn
    exact ih hk (hk s hi)

/-- **Two loops side by side.** If attempts in corresponding surroundings have
equal outcomes and leave corresponding surroundings, then two loops with the
same policy announce the same and end alike. The requests may differ. -/
theorem run_lockstep (first : Request → σ → Outcome × σ) (second : Request → τ → Outcome × τ)
    {R : σ → τ → Prop} {c d : Call}
    (step : ∀ s t, R s t → (first c.request s).1 = (second d.request t).1 ∧
      R (first c.request s).2 (second d.request t).2)
    (hp : c.policy = d.policy) (hn : c.retries = d.retries) {s : σ} {t : τ} (h : R s t) :
    (c.run first s).1 = (d.run second t).1 ∧ (c.run first s).2.1 = (d.run second t).2.1 ∧
      R (c.run first s).2.2 (d.run second t).2.2 := by
  obtain ⟨ho, hr⟩ := step s t h
  cases hc : c.next (first c.request s).1 with
  | ended o =>
    have hd : d.next (second d.request t).1 = .ended o := by
      rw [next_eq_ended] at hc ⊢
      rw [← ho, ← hp, ← hn]
      exact hc
    rw [run_ended hc, run_ended hd]
    exact ⟨rfl, rfl, hr⟩
  | again n c' =>
    obtain ⟨e, he, hre, hl, rfl, rfl⟩ := next_eq_again.mp hc
    have hd : d.next (second d.request t).1 = .again (c.notice e) d.retried := by
      rw [next_eq_again]
      refine ⟨e, ho ▸ he, hre, hp ▸ hn ▸ hl, ?_, rfl⟩
      rw [notice, notice, hp, hn]
    have := next_left hc
    rw [run_again hc, run_again hd]
    obtain ⟨h1, h2, h3⟩ := run_lockstep first second (c := c.retried) (d := d.retried)
      step hp (show c.retries + 1 = d.retries + 1 by rw [hn]) hr
    exact ⟨by rw [h1], h2, h3⟩
termination_by c.left

/-! ## Where the loop stops -/

/-- The surroundings after `k` attempts. -/
def stage (attempt : Request → σ → Outcome × σ) (q : Request) : Nat → σ → σ
  | 0, s => s
  | k + 1, s => stage attempt q k (attempt q s).2

/-- The outcome of the attempt with the index `k`. -/
def outcomeAt (attempt : Request → σ → Outcome × σ) (q : Request) (s : σ) (k : Nat) : Outcome :=
  (attempt q (stage attempt q k s)).1

/-- The loop may stop at attempt `k`: no retry is left, or none would help. -/
def StopsAt (c : Call) (o : Nat → Outcome) (k : Nat) : Prop :=
  c.retries.toNat + k = c.policy.limit.toNat ∨ ¬ mayPass (o k)

/-- One notice for each of the first `n` failures: the number of the retry, the
delay before it, and the failure itself. -/
def Announced (c : Call) (o : Nat → Outcome) (n : Nat) (notices : List Notice) : Prop :=
  notices.length = n ∧ ∀ k < n, ∃ m, notices[k]? = some m ∧
    m.attempt.toNat = c.retries.toNat + k + 1 ∧ m.delay = c.policy.delay.times m.attempt ∧
    o k = .error m.failure

theorem announced_zero (c : Call) (o : Nat → Outcome) : c.Announced o 0 [] :=
  ⟨rfl, fun _ hk => absurd hk (Nat.not_lt_zero _)⟩

theorem announced_succ {c : Call} {o : Nat → Outcome} {e : SendFailure} {n : Nat}
    {notices : List Notice} (h0 : o 0 = .error e) (hl : c.retries < c.policy.limit)
    (h : c.retried.Announced (fun k => o (k + 1)) n notices) :
    c.Announced o (n + 1) (c.notice e :: notices) := by
  obtain ⟨hn, he⟩ := h
  have hr := retried_retries hl
  refine ⟨by rw [List.length_cons, hn], ?_⟩
  intro k hk
  cases k with
  | zero => exact ⟨c.notice e, rfl, hr, rfl, h0⟩
  | succ k =>
    obtain ⟨m, hm, ha, hd, ho⟩ := he k (Nat.lt_of_succ_lt_succ hk)
    exact ⟨m, hm, by omega, hd, ho⟩

theorem stopsAt_retried {c : Call} (hl : c.retries < c.policy.limit) (o : Nat → Outcome) (k : Nat) :
    c.retried.StopsAt (fun k => o (k + 1)) k ↔ c.StopsAt o (k + 1) := by
  have hp : c.retried.policy = c.policy := rfl
  rw [StopsAt, StopsAt, hp, retried_retries hl, Nat.add_right_comm, Nat.add_assoc]

/-- **Where the loop stops.** It stops at the first attempt at which it may; by
then it has announced every failure before. -/
theorem run_stages (attempt : Request → σ → Outcome × σ) (c : Call) (s : σ)
    (h : c.retries ≤ c.policy.limit) :
    ∃ n, IsLeast {k | c.StopsAt (outcomeAt attempt c.request s) k} n ∧
      (c.run attempt s).2 =
        (outcomeAt attempt c.request s n, stage attempt c.request (n + 1) s) ∧
      c.Announced (outcomeAt attempt c.request s) n (c.run attempt s).1 := by
  refine run_rule attempt (P := fun c s out => c.retries ≤ c.policy.limit →
    ∃ n, IsLeast {k | c.StopsAt (outcomeAt attempt c.request s) k} n ∧
      out.2 = (outcomeAt attempt c.request s n, stage attempt c.request (n + 1) s) ∧
      c.Announced (outcomeAt attempt c.request s) n out.1) ?_ ?_ c s h
  · intro c s o ho hc
    obtain ⟨rfl, hstop⟩ := next_eq_ended.mp ho
    refine ⟨0, ⟨?_, fun k _ => Nat.zero_le k⟩, rfl, announced_zero c _⟩
    by_cases hp : mayPass (attempt c.request s).1
    · left
      have hle := UInt32.le_iff_toNat_le.mp hc
      have hlt := mt UInt32.lt_iff_toNat_lt.mpr (hstop hp)
      omega
    · right
      exact hp
  · intro c s n d hn ih hc
    obtain ⟨e, he, hre, hl, rfl, rfl⟩ := next_eq_again.mp hn
    have hle : c.retried.retries ≤ c.policy.limit := by
      rw [UInt32.le_iff_toNat_le, retried_retries hl]
      exact UInt32.lt_iff_toNat_lt.mp hl
    obtain ⟨n, ⟨hstop, hleast⟩, hout, hann⟩ := ih hle
    refine ⟨n + 1, ⟨(stopsAt_retried hl _ n).mp hstop, ?_⟩, hout, announced_succ he hl hann⟩
    intro k hk
    cases k with
    | zero =>
      -- the first attempt failed in a way that may pass, with a retry left
      rcases hk with hk | hk
      · have hlt := UInt32.lt_iff_toNat_lt.mp hl
        omega
      · exact absurd (mayPass_iff.mpr ⟨e, he, hre⟩) hk
    | succ k => exact Nat.succ_le_succ (hleast ((stopsAt_retried hl _ k).mpr hk))

/-! ## The count of retries -/

/-- The calls through which a loop can pass, whatever comes of its attempts. -/
inductive Leads (c : Call) : Call → Prop
  | start : Leads c c
  | again {d e : Call} {o : Outcome} {n : Notice} :
      Leads c d → d.next o = .again n e → Leads c e

theorem leads_retries_le {c d : Call} (hc : c.retries ≤ c.policy.limit) (h : Leads c d) :
    d.policy = c.policy ∧ d.retries ≤ c.policy.limit := by
  induction h with
  | start => exact ⟨rfl, hc⟩
  | again _ hn ih =>
    obtain ⟨_, _, _, hl, _, rfl⟩ := next_eq_again.mp hn
    refine ⟨ih.1, ?_⟩
    rw [UInt32.le_iff_toNat_le, retried_retries hl, ← ih.1]
    exact UInt32.lt_iff_toNat_lt.mp hl

end Call

end SignOn
