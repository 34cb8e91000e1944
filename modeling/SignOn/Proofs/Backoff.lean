import SignOn.Proofs.Loop

/-!
How long a call waits before each of its retries.

* `Span.times?_cases`: a multiple of a length is exact, or it is longer than any length;
* `Span.times_totalNanos`, `Span.millis_eq`: hence multiples and their milliseconds in
  whole numbers without bounds;
* `Call.run_delays`: the delay that the loop announces for each retry;
* `delays_exact`: the schedule of the delays over a whole run.
-/

namespace SignOn

namespace Span

/-! ## Words -/

theorem mul?_cases (a b : UInt64) :
    (∃ c, mul? a b = some c ∧ c.toNat = a.toNat * b.toNat) ∨
      (mul? a b = none ∧ UInt64.size ≤ a.toNat * b.toNat) := by
  unfold mul?
  split
  · next h =>
    refine Or.inl ⟨a * b, rfl, ?_⟩
    rw [UInt64.toNat_mul]
    exact Nat.mod_eq_of_lt h
  · next h => exact Or.inr ⟨rfl, Nat.le_of_not_lt h⟩

theorem add?_cases (a b : UInt64) :
    (∃ c, add? a b = some c ∧ c.toNat = a.toNat + b.toNat) ∨
      (add? a b = none ∧ UInt64.size ≤ a.toNat + b.toNat) := by
  unfold add?
  split
  · next h =>
    refine Or.inl ⟨a + b, rfl, ?_⟩
    rw [UInt64.toNat_add]
    exact Nat.mod_eq_of_lt h
  · next h => exact Or.inr ⟨rfl, Nat.le_of_not_lt h⟩

/-- Less than a second, taken as often as 32 bits can say, still fits into 64 bits of
nanoseconds. -/
theorem carry_toNat (n : Nanos) (k : UInt32) :
    (UInt64.ofNat n * k.toUInt64).toNat = n * k.toNat := by
  have hn : n.val < 1000000000 := n.isLt
  have hk : k.toNat < 4294967296 := k.toNat_lt
  have hprod : n.val * k.toNat < 1000000000 * 4294967296 := Nat.mul_lt_mul'' hn hk
  have hword : (UInt64.ofNat n).toNat = n.val :=
    UInt64.toNat_ofNat_of_lt' (by simp [UInt64.size]; omega)
  rw [UInt64.toNat_mul, hword, UInt32.toNat_toUInt64]
  exact Nat.mod_eq_of_lt (by omega)

/-! ## Lengths in nanoseconds -/

theorem totalNanos_inj {d e : Span} (h : d.totalNanos = e.totalNanos) : d = e := by
  obtain ⟨s, n⟩ := d
  obtain ⟨t, m⟩ := e
  have hn : n.val < 1000000000 := n.isLt
  have hm : m.val < 1000000000 := m.isLt
  simp only [totalNanos] at h
  have hs : s = t := UInt64.toNat_inj.mp (by omega)
  have hnm : n = m := Fin.ext (by omega)
  rw [hs, hnm]

theorem greatest_totalNanos : greatest.totalNanos = UInt64.size * 1000000000 - 1 := by decide

theorem totalNanos_le_greatest (d : Span) : d.totalNanos ≤ greatest.totalNanos := by
  have hs : d.seconds.toNat < UInt64.size := d.seconds.toNat_lt_size
  have hn : d.nanos.val < 1000000000 := d.nanos.isLt
  rw [greatest_totalNanos, totalNanos]
  omega

/-- **A multiple of a length** has all its nanoseconds, or there are too many of them for
any length. -/
theorem times?_cases (d : Span) (k : UInt32) :
    (∃ e, d.times? k = some e ∧ e.totalNanos = k.toNat * d.totalNanos) ∨
      (d.times? k = none ∧ greatest.totalNanos < k.toNat * d.totalNanos) := by
  have hcarry := carry_toNat d.nanos k
  have hwhole : (UInt64.ofNat d.nanos * k.toUInt64 / 1000000000).toNat =
      d.nanos * k.toNat / 1000000000 := by
    rw [UInt64.toNat_div, hcarry]
    rfl
  have htotal : k.toNat * d.totalNanos =
      d.seconds.toNat * k.toNat * 1000000000 + d.nanos * k.toNat := by
    rw [totalNanos, Nat.mul_comm, Nat.add_mul, Nat.mul_right_comm]
  have hsize : 0 < UInt64.size := by decide
  rw [htotal, greatest_totalNanos]
  rcases mul?_cases d.seconds k.toUInt64 with ⟨whole, hmul, hw⟩ | ⟨hmul, hlong⟩
  · rw [UInt32.toNat_toUInt64] at hw
    rcases add?_cases whole (UInt64.ofNat d.nanos * k.toUInt64 / 1000000000) with
      ⟨seconds, hadd, hs⟩ | ⟨hadd, hlong⟩
    · have hsome : d.times? k =
          some ⟨seconds, Nanos.within (UInt64.ofNat d.nanos * k.toUInt64).toNat⟩ := by
        simp only [times?, hmul, hadd, Option.bind_eq_bind, Option.bind_some]
      refine Or.inl ⟨_, hsome, ?_⟩
      show seconds.toNat * 1000000000 + (UInt64.ofNat d.nanos * k.toUInt64).toNat % 1000000000 = _
      rw [hs, hw, hwhole, hcarry]
      omega
    · refine Or.inr ⟨by simp [times?, hmul, hadd], ?_⟩
      rw [hw, hwhole] at hlong
      omega
  · refine Or.inr ⟨by simp [times?, hmul], ?_⟩
    rw [UInt32.toNat_toUInt64] at hlong
    omega

theorem times_totalNanos (d : Span) (k : UInt32) :
    (d.times k).totalNanos = min (k.toNat * d.totalNanos) greatest.totalNanos := by
  rcases times?_cases d k with ⟨e, he, htotal⟩ | ⟨hnone, hlong⟩
  · rw [times, he, Option.getD_some, htotal]
    exact (Nat.min_eq_left (htotal ▸ e.totalNanos_le_greatest)).symm
  · rw [times, hnone, Option.getD_none]
    exact (Nat.min_eq_right (Nat.le_of_lt hlong)).symm

theorem millis_eq (d : Span) : d.millis = min (d.totalNanos / 1000000) (UInt64.size - 1) := by
  have hn : d.nanos.val < 1000000000 := d.nanos.isLt
  have hwhole : d.wholeMillis = d.totalNanos / 1000000 := by
    rw [wholeMillis, totalNanos]
    omega
  rw [millis, hwhole]
  have hsize : 0 < UInt64.size := by decide
  split <;> omega

theorem millis_le (d : Span) : d.millis ≤ UInt64.size - 1 := by
  rw [millis_eq]
  exact Nat.min_le_right _ _

theorem millis_mono {d e : Span} (h : d.totalNanos ≤ e.totalNanos) : d.millis ≤ e.millis := by
  have hdiv : d.totalNanos / 1000000 ≤ e.totalNanos / 1000000 := Nat.div_le_div_right h
  rw [millis_eq, millis_eq]
  omega

end Span

/-! ## Announcements -/

/-- **The delays that a call announces** are the multiples of the delay of its policy, in
their order. -/
theorem Call.run_delays {σ : Type} (attempt : Request → σ → Outcome × σ) (request : Request)
    (policy : RetryPolicy) (s : σ) {i : Nat} {m : Notice}
    (h : (Call.run attempt { request, policy } s).1[i]? = some m) :
    m.attempt.toNat = i + 1 ∧ m.delay = policy.delay.times m.attempt := by
  have hle : (0 : UInt32) ≤ policy.limit := UInt32.le_iff_toNat_le.mpr (Nat.zero_le _)
  obtain ⟨n, _, _, hlen, hann⟩ := Call.run_stages attempt { request, policy } s hle
  have hi : i < n := hlen ▸ (List.getElem?_eq_some_iff.mp h).1
  obtain ⟨m', hm', hattempt, hdelay, _⟩ := hann i hi
  rw [h] at hm'
  cases hm'
  exact ⟨by simpa using hattempt, hdelay⟩

/-- **The schedule of the delays.** The delay before a retry is its number times the delay
of the policy, or the greatest length if that is more, and it is logged in whole
milliseconds as far as 64 bits hold them. Hence, however the attempts of a run end, no
delay is shorter than one before it, and what has reached its limit stays there. -/
theorem delays_exact (policy : RetryPolicy) :
    (∀ k : UInt32,
      let d := policy.delay.times k
      d.totalNanos = min (k.toNat * policy.delay.totalNanos) Span.greatest.totalNanos ∧
        d.millis = min (d.totalNanos / 1000000) (UInt64.size - 1)) ∧
    ∀ {σ : Type} (attempt : Request → σ → Outcome × σ) (request : Request) (s : σ),
      let notices := (Call.run attempt { request, policy } s).1
      (∀ i m, notices[i]? = some m → m.attempt.toNat = i + 1 ∧
        m.delay = policy.delay.times m.attempt) ∧
      notices.Pairwise fun m later =>
        m.delay.totalNanos ≤ later.delay.totalNanos ∧ m.delay.millis ≤ later.delay.millis ∧
        (m.delay = Span.greatest → later.delay = Span.greatest) ∧
        (m.delay.millis = UInt64.size - 1 → later.delay.millis = UInt64.size - 1) := by
  have hexact := fun k : UInt32 => Span.times_totalNanos policy.delay k
  refine ⟨fun k => ⟨hexact k, Span.millis_eq _⟩, ?_⟩
  intro σ attempt request s notices
  have hdelays : ∀ i m, notices[i]? = some m → m.attempt.toNat = i + 1 ∧
      m.delay = policy.delay.times m.attempt := fun i m => Call.run_delays attempt request policy s
  refine ⟨hdelays, List.pairwise_iff_getElem.mpr ?_⟩
  intro i j hi hj hij
  obtain ⟨hki, hdi⟩ := hdelays i _ (List.getElem?_eq_getElem hi)
  obtain ⟨hkj, hdj⟩ := hdelays j _ (List.getElem?_eq_getElem hj)
  -- a later retry has a greater number, so its multiple is no less
  have htotal : notices[i].delay.totalNanos ≤ notices[j].delay.totalNanos := by
    rw [hdi, hdj, hexact, hexact, hki, hkj]
    have hmul : (i + 1) * policy.delay.totalNanos ≤ (j + 1) * policy.delay.totalNanos :=
      Nat.mul_le_mul_right _ (by omega)
    omega
  have hmillis := Span.millis_mono htotal
  refine ⟨htotal, hmillis, ?_, ?_⟩
  · intro hgreatest
    apply Span.totalNanos_inj
    rw [hgreatest] at htotal
    exact Nat.le_antisymm (Span.totalNanos_le_greatest _) htotal
  · intro hlast
    rw [hlast] at hmillis
    exact Nat.le_antisymm (Span.millis_le _) hmillis

end SignOn
