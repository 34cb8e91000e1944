import SignOn.Proofs.Course
import SignOn.Proofs.Loop
import SignOn.Proofs.Redirects

/-!
The record of a whole loop, attempt by attempt, and what the service saw of it.

* `Watch.run_tries`: the attempts on record are those made in the successive
  surroundings, up to the one at which the loop stops;
* `Watch.tried_raw`, `Watch.tried_handed`, `Watch.tried_sent`: the attempt with the
  index `k` gets the reply with that index, or what the library makes of it;
* `Watch.followed_iff`: which of them has another one after it;
* `Scene.course_record`, `Scene.course_staged`: this is the record of an operation
  that is sent;
* `Watch.run_traffic`, `Scene.course_traffic`: the service
  received the requests of those attempts on record that have a reply, and the
  library sent on what is on record for them;
* `Watch.run_service`, `Scene.course_service`: the replies that were used for them.
-/

namespace SignOn

/-- One more stage is one more attempt at the end. -/
theorem Call.stage_succ {σ : Type} (attempt : Request → σ → Outcome × σ) (q : Request) (k : Nat)
    (s : σ) : Call.stage attempt q (k + 1) s = (attempt q (Call.stage attempt q k s)).2 := by
  induction k generalizing s with
  | zero => rfl
  | succ k ih =>
    have hstep : Call.stage attempt q (k + 2) s =
        Call.stage attempt q (k + 1) (attempt q s).2 := rfl
    rw [hstep, ih (attempt q s).2]
    rfl

theorem Try.Fair.outcome_of_reply {t : Try} (h : t.Fair) {r : Reply} (hr : t.reply = some r) :
    t.outcome = t.request.outcome r := by
  simpa [Try.Fair, hr] using h

theorem Service.next_fst (s : Service) : s.next.1 = s.replies[0]?.getD notFound := by
  cases s with
  | mk reachable replies library => cases replies <;> rfl

/-- The requests of the attempts that have a reply. -/
def answered (tries : List Try) : List Request :=
  (tries.filter fun t => t.reply.isSome).map Try.request

theorem answered_append (before after : List Try) :
    answered (before ++ after) = answered before ++ answered after := by
  simp [answered]

namespace Watch

variable (others : Others) (q : Request)

/-- The scene of the next attempt: the others have acted. -/
def upcoming (w : Watch) : Scene := w.scene.happenAll (others w.tries.length)

/-- The next attempt, as it goes on record. -/
def tried (w : Watch) : Try := (w.upcoming others).trial (others w.tries.length) q

/-- The surroundings before the attempt with the index `k`. -/
def stage (s : Scene) (k : Nat) : Watch := Call.stage (Watch.attempt others) q k { scene := s }

theorem attempt_eq (w : Watch) :
    w.attempt others q = ((w.tried others q).outcome,
      { scene := ((w.upcoming others).attempt q).2, tries := w.tries ++ [w.tried others q] }) :=
  rfl

theorem tried_fair (w : Watch) : (w.tried others q).Fair :=
  Scene.trial_fair (others w.tries.length) q (w.upcoming others)

theorem stage_succ (s : Scene) (k : Nat) :
    stage others q s (k + 1) = ((stage others q s k).attempt others q).2 :=
  Call.stage_succ _ _ _ _

/-- One more attempt uses one more reply, if it gets to the service. -/
theorem attempt_service {s : Scene} {w : Watch} {k : Nat}
    (h : w.scene.service =
      { s.service with replies := s.service.replies.drop (s.share q k) }) :
    (w.attempt others q).2.scene.service =
      { s.service with replies := s.service.replies.drop (s.share q (k + 1)) } := by
  have hservice : (w.upcoming others).service =
      { s.service with replies := s.service.replies.drop (s.share q k) } := by
    rw [upcoming, Scene.happenAll_service, h]
  have hshare : (w.upcoming others).share q 1 = s.share q 1 := by
    rw [Scene.share, Scene.share, hservice]
    rfl
  rw [attempt_eq, Scene.attempt_service, hshare, hservice, List.drop_drop, Scene.share_add]

/-- Each attempt that gets to the service has used one reply. -/
theorem stage_service (s : Scene) (k : Nat) :
    (stage others q s k).scene.service =
      { s.service with replies := s.service.replies.drop (s.share q k) } := by
  induction k with
  | zero => simp [stage, Call.stage, Scene.share]
  | succ k ih =>
    rw [stage_succ]
    exact attempt_service others q ih

theorem upcoming_service (s : Scene) (k : Nat) :
    ((stage others q s k).upcoming others).service =
      { s.service with replies := s.service.replies.drop (s.share q k) } := by
  rw [upcoming, Scene.happenAll_service, stage_service]

/-- The attempt with the index `k` gets to the service if any does, and there
meets the reply with that index. -/
theorem upcoming_next (s : Scene) (k : Nat) :
    let service := ((stage others q s k).upcoming others).service
    service.receives q = s.service.receives q ∧ service.library = s.service.library ∧
      (s.service.receives q → service.next.1 = s.service.replies[k]?.getD Service.notFound) := by
  intro service
  have hservice : service = _ := upcoming_service others q s k
  rw [hservice]
  refine ⟨rfl, rfl, ?_⟩
  intro h
  simp [Service.next_fst, Scene.share, h]

theorem tried_raw (s : Scene) (k : Nat) :
    ((stage others q s k).tried others q).raw =
      if s.service.receives q then some (s.service.replies[k]?.getD Service.notFound)
      else none := by
  obtain ⟨hreceives, _, hnext⟩ := upcoming_next others q s k
  rw [tried, Scene.trial, hreceives]
  by_cases h : s.service.receives q
  · simp only [h, if_true, hnext h]
  · simp only [h, Bool.false_eq_true, if_false]

/-- What the library makes of a reply does not depend on the attempt. -/
theorem tried_pursuit {s : Scene} {k : Nat} {r : Reply}
    (h : ((stage others q s k).tried others q).raw = some r) :
    let pursuit := s.service.library.pursue s.service.library.redirects q r
    ((stage others q s k).tried others q).reply = some pursuit.reply ∧
      ((stage others q s k).tried others q).sent = pursuit.sent := by
  obtain ⟨_, hlibrary, _⟩ := upcoming_next others q s k
  rw [tried, Scene.trial] at h ⊢
  split at h
  · next hr =>
    cases h
    simp only [Service.reply?, Service.sentOn, hr, if_true, Service.answer, hlibrary, and_self]
  · cases h

/-- Without a reply there is nothing to make anything of. -/
theorem tried_unanswered {s : Scene} {k : Nat}
    (h : ((stage others q s k).tried others q).raw = none) :
    ((stage others q s k).tried others q).reply = none ∧
      ((stage others q s k).tried others q).sent = [] := by
  rw [tried, Scene.trial] at h ⊢
  split at h
  · cases h
  · next hr =>
    simp only [Service.reply?, Service.sentOn, hr, Bool.false_eq_true, if_false, and_self]

/-- What is handed over is what the library makes of the reply of the service.
That is the reply itself if the library does not follow it; otherwise it is the
last reply that the library comes to. -/
theorem tried_handed {s : Scene} {k : Nat} {raw : Reply}
    (h : ((stage others q s k).tried others q).raw = some raw) :
    let t := (stage others q s k).tried others q
    let l := s.service.library
    ∃ r, t.reply = some r ∧ r = (l.pursue l.redirects q raw).reply ∧
      (¬ l.Follows q raw.toResponse → r = raw ∧ t.sent = []) ∧
      t.sent.length ≤ l.redirects ∧
      (r.delivery = .lost ∨ ∃ last, (q :: t.sent).getLast? = some last ∧
        ¬ l.Follows last r.toResponse) := by
  intro t l
  obtain ⟨hreply, hsent⟩ := tried_pursuit others q h
  refine ⟨_, hreply, rfl, ?_, ?_⟩
  · intro hfinal
    have hpursue : l.pursue l.redirects q raw = { reply := raw } :=
      Library.pursue_of_final (Library.redirect?_eq_none_iff.mpr hfinal)
    rw [hsent, hpursue]
    exact ⟨rfl, rfl⟩
  · rw [hsent]
    exact l.pursue_last l.redirects q raw

/-- What the library sends on comes of the request, and of a reply to it that is
a redirect. -/
theorem tried_sent (s : Scene) (k : Nat) :
    let t := (stage others q s k).tried others q
    (∀ p ∈ t.sent, q.Relayed p) ∧
      (t.sent ≠ [] → t.reply.isSome ∧
        ∃ r, t.raw = some r ∧ s.service.library.Follows q r.toResponse) := by
  intro t
  cases hraw : t.raw with
  | none =>
    rw [(tried_unanswered others q hraw).2]
    exact ⟨fun p hp => absurd hp List.not_mem_nil, fun hne => absurd rfl hne⟩
  | some r =>
    obtain ⟨r', hreply, _, hfinal, _⟩ := tried_handed others q hraw
    refine ⟨?_, ?_⟩
    · rw [(tried_pursuit others q hraw).2]
      exact fun p hp => Library.pursue_sent hp
    · intro hne
      have hfollows : s.service.library.Follows q r.toResponse := by
        by_contra hn
        exact hne (hfinal hn).2
      rw [hreply]
      exact ⟨rfl, r, rfl, hfollows⟩

theorem tried_reply (s : Scene) (k : Nat) :
    ((stage others q s k).tried others q).reply.isSome = s.service.receives q := by
  obtain ⟨hreceives, _, _⟩ := upcoming_next others q s k
  rw [tried, Scene.trial, Service.reply?, hreceives]
  split
  · next h => simp [h]
  · next h => simp [h]

theorem stage_tries (s : Scene) (k : Nat) :
    (stage others q s k).tries =
      (List.range k).map fun i => (stage others q s i).tried others q := by
  induction k with
  | zero => rfl
  | succ k ih =>
    rw [stage_succ, attempt_eq, List.range_succ, List.map_append, ← ih]
    rfl

/-! ## The whole loop -/

/-- The record of a loop that starts without retries. -/
def record (request : Request) (policy : RetryPolicy) (s : Scene) : List Try :=
  (Call.run (Watch.attempt others) { request, policy } { scene := s }).2.2.tries

/-- The attempts on record end with the first at which the loop may stop. -/
theorem run_tries (policy : RetryPolicy) (s : Scene) :
    ∃ n, IsLeast {k | k = policy.limit.toNat ∨
        ¬ mayPass ((stage others q s k).tried others q).outcome} n ∧
      record others q policy s =
        (List.range (n + 1)).map fun k => (stage others q s k).tried others q := by
  let call : Call := { request := q, policy }
  have hle : call.retries ≤ call.policy.limit := UInt32.le_iff_toNat_le.mpr (Nat.zero_le _)
  have hstop : ∀ o k, call.StopsAt o k ↔ k = policy.limit.toNat ∨ ¬ mayPass (o k) := by
    intro o k
    simp [Call.StopsAt, call]
  obtain ⟨n, hleast, hout, _⟩ := Call.run_stages (Watch.attempt others) call { scene := s } hle
  simp only [hstop] at hleast
  refine ⟨n, hleast, ?_⟩
  rw [← stage_tries]
  exact congrArg (fun out => out.2.tries) hout

/-- At least one attempt is made. -/
theorem record_pos (policy : RetryPolicy) (s : Scene) : 0 < (record others q policy s).length := by
  obtain ⟨n, _, hrec⟩ := run_tries others q policy s
  simp [hrec]

theorem record_getElem? {policy : RetryPolicy} {s : Scene} {k : Nat} {t : Try} :
    (record others q policy s)[k]? = some t ↔
      k < (record others q policy s).length ∧ t = (stage others q s k).tried others q := by
  obtain ⟨n, _, hrec⟩ := run_tries others q policy s
  simp only [hrec, List.getElem?_eq_some_iff, List.length_map, List.length_range, List.getElem_map,
    List.getElem_range, exists_prop]
  exact and_congr_right fun _ => eq_comm

/-- What is on record was tried in the surroundings of its number. -/
theorem mem_record {policy : RetryPolicy} {s : Scene} {t : Try}
    (h : t ∈ record others q policy s) :
    ∃ k, t = (stage others q s k).tried others q := by
  obtain ⟨k, hk⟩ := List.getElem?_of_mem h
  exact ⟨k, ((record_getElem? others q).mp hk).2⟩

/-- **Followed attempts.** An attempt has another one after it exactly if a
retry is left and its outcome is a failure that may pass. -/
theorem followed_iff {policy : RetryPolicy} {s : Scene} {k : Nat} {t : Try}
    (h : (record others q policy s)[k]? = some t) :
    k + 1 < (record others q policy s).length ↔ k < policy.limit.toNat ∧ mayPass t.outcome := by
  obtain ⟨hk, rfl⟩ := (record_getElem? others q).mp h
  obtain ⟨n, ⟨hstop, hleast⟩, hrec⟩ := run_tries others q policy s
  have hlength : (record others q policy s).length = n + 1 := by simp [hrec]
  have hlimit : n ≤ policy.limit.toNat := hleast (Or.inl rfl)
  rw [hlength] at hk ⊢
  constructor
  · intro hlt
    have hgo : ¬ (k = policy.limit.toNat ∨
        ¬ mayPass ((stage others q s k).tried others q).outcome) := by
      intro hk'
      have hle : n ≤ k := hleast hk'
      omega
    exact ⟨by omega, by simpa using (not_or.mp hgo).2⟩
  · rintro ⟨hkl, hpass⟩
    -- the loop stops at `n`, which is not `k`, as `k` has a retry left and may pass
    rcases hstop with hstop | hstop
    · omega
    · have hne : k ≠ n := by
        rintro rfl
        exact hstop hpass
      omega

/-- What the service receives in a loop are the requests of the attempts that
have a reply, and what the library sends on is on record. -/
theorem run_traffic (c : Call) (s : Scene) :
    let out := (c.run (Watch.attempt others) { scene := s }).2.2
    out.scene.traffic.requests = s.traffic.requests ++ answered out.tries ∧
      out.scene.traffic.onward = s.traffic.onward ++ out.tries.flatMap Try.sent := by
  let Told (w : Watch) : Prop :=
    w.scene.traffic.requests = s.traffic.requests ++ answered w.tries ∧
      w.scene.traffic.onward = s.traffic.onward ++ w.tries.flatMap Try.sent
  have keep : ∀ w : Watch, Told w → Told (w.attempt others c.request).2 := by
    rintro w ⟨hrequests, honward⟩
    have ht : (w.upcoming others).traffic = w.scene.traffic := Scene.happenAll_traffic _ _
    constructor
    · rw [attempt_eq, answered_append, ← List.append_assoc, ← hrequests]
      simp only [Scene.attempt_traffic, ht, List.append_cancel_left_eq]
      by_cases hr : (w.upcoming others).service.receives c.request
      · simp [answered, tried, Scene.trial, Service.reply?, Scene.share, hr]
      · simp [answered, tried, Scene.trial, Service.reply?, Scene.share, hr]
    · rw [attempt_eq, List.flatMap_append, ← List.append_assoc, ← honward]
      simp only [Scene.attempt_traffic, ht, List.append_cancel_left_eq, List.flatMap_singleton]
      rfl
  obtain ⟨w, hw, hrun⟩ := Call.run_last (Watch.attempt others) (c := c) (I := Told)
    (s := { scene := s }) keep (by simp [Told, answered])
  have hout : (c.run (Watch.attempt others) { scene := s }).2.2 =
      (w.attempt others c.request).2 := congrArg Prod.snd hrun
  rw [hout]
  exact keep w hw

/-- A loop uses one reply for each of its attempts that gets to the service. -/
theorem run_service (c : Call) (s : Scene) :
    let out := (c.run (Watch.attempt others) { scene := s }).2.2
    out.scene.service = { s.service with
      replies := s.service.replies.drop (s.share c.request out.tries.length) } := by
  have keep : ∀ w : Watch, w.scene.service = { s.service with
        replies := s.service.replies.drop (s.share c.request w.tries.length) } →
      (w.attempt others c.request).2.scene.service = { s.service with
        replies := s.service.replies.drop
          (s.share c.request (w.attempt others c.request).2.tries.length) } := by
    intro w hw
    rw [attempt_service others c.request hw, attempt_eq, List.length_append]
    rfl
  obtain ⟨w, hw, hrun⟩ := Call.run_last (Watch.attempt others) (c := c)
    (I := fun w => w.scene.service = { s.service with
      replies := s.service.replies.drop (s.share c.request w.tries.length) })
    (s := { scene := s }) keep (by simp [Scene.share])
  have hout : (c.run (Watch.attempt others) { scene := s }).2.2 =
      (w.attempt others c.request).2 := congrArg Prod.snd hrun
  rw [hout]
  exact keep w hw

end Watch

/-- An operation whose token is there makes the attempts of its loop. -/
theorem Scene.course_record (others : Others) (config : Config) {op : Operation} {s : Scene}
    (h : ¬ op.Wanting s.session) :
    (s.course others config op).tries =
      Watch.record others (op.request config (op.token s.session)) config.policy s := by
  rw [course_of_not_wanting others config h]
  rfl

/-- Each attempt of an operation was made at some stage of its loop. -/
theorem Scene.course_staged (others : Others) (config : Config) {op : Operation} {s : Scene}
    {t : Try} (ht : t ∈ (s.course others config op).tries) :
    let q := op.request config (op.token s.session)
    ∃ k, t = (Watch.stage others q s k).tried others q := by
  rw [course_record others config (course_request others config ht).1] at ht
  exact Watch.mem_record others _ ht

/-- The replies that are left after the course of an operation that is sent. -/
theorem Scene.course_service (others : Others) (config : Config) {op : Operation} {s : Scene}
    (h : ¬ op.Wanting s.session) :
    (s.course others config op).after.service = { s.service with
      replies := s.service.replies.drop
        (s.share (op.request config (op.token s.session)) (s.course others config op).tries.length) } := by
  rw [course_of_not_wanting others config h, landing_service, announce, happenAll_service]
  exact Watch.run_service others (op.flight config s.session).call s

/-- What is sent in a course, by the operation and by the library. -/
theorem Scene.course_traffic (others : Others) (config : Config) (op : Operation) (s : Scene) :
    let c := s.course others config op
    c.after.traffic.requests = s.traffic.requests ++ answered c.tries ∧
      c.after.traffic.onward = s.traffic.onward ++ c.tries.flatMap Try.sent := by
  intro c
  by_cases h : op.Wanting s.session
  · have hc : c = _ := course_of_wanting others config h
    rw [hc, landing_traffic, happenAll_traffic]
    simp [answered]
  · have hc : c = _ := course_of_not_wanting others config h
    rw [hc, landing_traffic, announce, happenAll_traffic]
    exact Watch.run_traffic others (op.flight config s.session).call s

/-- What the service receives in a course. -/
theorem Scene.course_requests (others : Others) (config : Config) (op : Operation) (s : Scene) :
    (s.course others config op).after.traffic.requests =
      s.traffic.requests ++ answered (s.course others config op).tries :=
  (s.course_traffic others config op).1

end SignOn
