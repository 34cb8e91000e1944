import SignOn.Proofs.Loop
import SignOn.Proofs.Surroundings

/-!
Retries: how many attempts a call makes, with which request, how they end and
what is announced of them.

* `Scene.stage_traffic`, `Scene.stage_service`: the traffic of `k` attempts;
* `retry_loop_exact`: the whole account of the loop, for sequences of outcomes
  and for the traffic with a service.
-/

namespace SignOn

namespace Scene

theorem stage_traffic (q : Request) (k : Nat) (s : Scene) :
    let after := (Call.stage attempt q k s).traffic
    after.attempts = s.traffic.attempts + k ∧
      after.requests = s.traffic.requests ++ List.replicate (s.share q k) q ∧
      after.notices = s.traffic.notices := by
  induction k generalizing s with
  | zero => simp [Call.stage, share]
  | succ k ih =>
    obtain ⟨hattempts, hrequests, hnotices⟩ := ih (s.attempt q).2
    rw [Call.stage]
    refine ⟨?_, ?_, ?_⟩
    · rw [hattempts, attempt_traffic, Nat.add_comm k 1, ← Nat.add_assoc]
    · rw [hrequests, attempt_traffic, attempt_share, Nat.add_comm k 1, ← share_add,
        ← List.replicate_append_replicate, ← List.append_assoc]
    · rw [hnotices, attempt_traffic]

theorem stage_service (q : Request) (k : Nat) (s : Scene) :
    (Call.stage attempt q k s).service =
      { s.service with replies := s.service.replies.drop (s.share q k) } := by
  induction k generalizing s with
  | zero => simp [Call.stage, share]
  | succ k ih =>
    rw [Call.stage, ih, attempt_share, attempt_service, Nat.add_comm k 1, ← share_add,
      List.drop_drop]

end Scene

/-! ## The whole account -/

/-- Surroundings that yield the given outcomes in turn and keep a record of the
requests. -/
def scripted (o : Nat → Outcome) (q : Request) (sent : List Request) : Outcome × List Request :=
  (o sent.length, sent ++ [q])

theorem stage_scripted (o : Nat → Outcome) (q : Request) (k : Nat) (sent : List Request) :
    Call.stage (scripted o) q k sent = sent ++ List.replicate k q := by
  induction k generalizing sent with
  | zero => simp [Call.stage]
  | succ k ih => simp [Call.stage, scripted, ih, List.replicate_succ]

theorem outcomeAt_scripted (o : Nat → Outcome) (q : Request) :
    Call.outcomeAt (scripted o) q [] = o := by
  funext k
  simp [Call.outcomeAt, stage_scripted, scripted]

/-- **The retry loop.** Let `n` be the first attempt that no retry may follow:
the limit is reached, or the outcome is no failure that may pass. The loop makes
the attempts up to `n`, all with the same request, yields the outcome of the
last one, and announces the failures before it with their numbers from 1 on.
The count of retries stays within the limit. In the traffic with a service there
is one attempt more than there are retries, and one reply is used for each
attempt that gets there. -/
theorem retry_loop_exact (request : Request) (policy : RetryPolicy) :
    let call : Call := { request, policy }
    (∀ o : Nat → Outcome, ∃ n,
      IsLeast {k | k = policy.limit.toNat ∨ ¬ mayPass (o k)} n ∧
      ∃ notices,
        call.run (scripted o) [] = (notices, o n, List.replicate (n + 1) request) ∧
        notices.length = n ∧
        ∀ k, 1 ≤ k → k ≤ n → ∃ m, notices[k - 1]? = some m ∧ m.attempt.toNat = k ∧
          o (k - 1) = .error m.failure) ∧
    (∀ d, call.Leads d → d.retries ≤ policy.limit ∧
      ∀ o n e, d.next o = .again n e → e.retries.toNat = d.retries.toNat + 1) ∧
    (∀ s : Scene, ∃ n,
      IsLeast {k | k = policy.limit.toNat ∨
        ¬ mayPass (Call.outcomeAt Scene.attempt request s k)} n ∧
      (s.run call).1 = Call.outcomeAt Scene.attempt request s n ∧
      let after := (s.run call).2
      let reached := if s.service.receives request then n + 1 else 0
      after.traffic.attempts = s.traffic.attempts + (n + 1) ∧
      after.traffic.notices.length = s.traffic.notices.length + n ∧
      after.traffic.requests = s.traffic.requests ++ List.replicate reached request ∧
      after.service.replies = s.service.replies.drop reached) := by
  intro call
  have hle : call.retries ≤ call.policy.limit := UInt32.le_iff_toNat_le.mpr (Nat.zero_le _)
  have hstop : ∀ o k, call.StopsAt o k ↔ k = policy.limit.toNat ∨ ¬ mayPass (o k) := by
    intro o k
    simp [Call.StopsAt, call]
  refine ⟨?_, ?_, ?_⟩
  · intro o
    obtain ⟨n, hleast, hout, hlen, hann⟩ := Call.run_stages (scripted o) call [] hle
    simp only [call, outcomeAt_scripted, stage_scripted, hstop] at hleast hout hann
    refine ⟨n, hleast, (call.run (scripted o) []).1, ?_, hlen, ?_⟩
    · rw [← List.nil_append (List.replicate _ _), ← hout]
    · intro k hk hkn
      obtain ⟨m, hm, ha, _, hf⟩ := hann (k - 1) (by omega)
      refine ⟨m, hm, ?_, hf⟩
      rw [ha, UInt32.toNat_zero]
      omega
  · intro d hd
    obtain ⟨hp, hd⟩ := Call.leads_retries_le hle hd
    refine ⟨hd, ?_⟩
    intro o n e hn
    obtain ⟨_, _, _, hl, _, rfl⟩ := Call.next_eq_again.mp hn
    exact Call.retried_retries hl
  · intro s
    obtain ⟨n, hleast, hout, hlen, _⟩ := Call.run_stages Scene.attempt call s hle
    simp only [hstop] at hleast
    obtain ⟨hattempts, hrequests, hnotices⟩ := Scene.stage_traffic request (n + 1) s
    have hs := Scene.stage_service request (n + 1) s
    refine ⟨n, hleast, ?_, ?_⟩
    · simp only [Scene.run, hout]
      rfl
    · simp only [Scene.run, Scene.announce, hout]
      refine ⟨?_, ?_, ?_, ?_⟩
      · exact hattempts
      · rw [hnotices, List.length_append, hlen]
      · exact hrequests
      · rw [hs]
        rfl

end SignOn
