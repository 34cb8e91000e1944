import SignOn.Proofs.Taxonomy
import SignOn.Proofs.Transient

/-!
When a new token would help. An operation whose token is not there fails for
want of it, and so does one whose last attempt the service rejected.

* `Refusal.ofHints_rejects`: which refusals reject a token;
* `Try.Fair.rejected_iff`: the replies with which an attempt is rejected;
* `Watch.rejected_last`: such an attempt is the last one;
* `authFailure_exactly`: which failures ask for a new token.
-/

namespace SignOn

/-! ## Refusals -/

/-- The refusals that are about the token itself. -/
def Refusal.RejectsToken (r : Refusal) : Prop := r = .authenticationFailed ∨ r = .sessionExpired

/-- A one-time code is asked for: by the code of the complaint, or by its flag
unless the session has expired. -/
def Complaint.AsksForTotp (c : Complaint) : Prop :=
  c.code = some "TOTP_REQUIRED" ∨ c.requiresTotp ∧ c.code ≠ some "SESSION_EXPIRED"

theorem Refusal.ofHints_rejects {status : Status} {c : Complaint} :
    (Refusal.ofHints status c.code c.requiresTotp).RejectsToken ↔
      status = 401 ∧ ¬ c.AsksForTotp := by
  unfold Refusal.ofHints RejectsToken Complaint.AsksForTotp
  by_cases h401 : status = 401
  · by_cases hexpired : c.code = some "SESSION_EXPIRED"
    · simp [h401, hexpired]
    · by_cases htotp : c.code = some "TOTP_REQUIRED" ∨ c.requiresTotp
      · simp [h401, hexpired, htotp]
      · simp [h401, hexpired, htotp]
  · simp only [h401, if_false, false_and, iff_false]
    repeat' split
    all_goals simp

theorem Failure.isAuthFailure_sending {e : SendFailure} :
    (Failure.sending e).isAuthFailure ↔
      ∃ status refusal text id, e = .refused status refusal text id ∧ refusal.RejectsToken := by
  cases e with
  | refused status refusal text id => cases refusal <;> simp [isAuthFailure, Refusal.RejectsToken]
  | network b => simp [isAuthFailure]
  | unencodable => simp [isAuthFailure]

/-! ## Replies and attempts -/

/-- The service rejects the token: it answers with 401, and its body is no
complaint that asks for a one-time code. -/
def Reply.RejectsToken (r : Reply) : Prop :=
  r.delivery ≠ .lost ∧ r.status = 401 ∧
    ¬ ∃ c, Json.decode Complaint.reader r.wording = .ok c ∧ c.AsksForTotp

/-- An attempt after which a new token would help. -/
def IsRejection (o : Outcome) : Prop := ∃ e, o = .error e ∧ (Failure.sending e).isAuthFailure

theorem Reply.isAuthFailure_refusal {r : Reply} :
    (Failure.sending r.refusal).isAuthFailure ↔
      r.status = 401 ∧ ¬ ∃ c, Json.decode Complaint.reader r.wording = .ok c ∧ c.AsksForTotp := by
  have hsilent : ¬ Complaint.silent.AsksForTotp := by
    simp [Complaint.silent, Complaint.AsksForTotp]
  have hasks : r.complaint.AsksForTotp ↔
      ∃ c, Json.decode Complaint.reader r.wording = .ok c ∧ c.AsksForTotp :=
    Complaint.ofBody_iff (P := Complaint.AsksForTotp) hsilent
  rw [← hasks, ← Refusal.ofHints_rejects, Failure.isAuthFailure_sending]
  simp [refusal]

theorem Request.outcome_rejected {q : Request} {r : Reply} :
    IsRejection (q.outcome r) ↔ r.RejectsToken := by
  unfold Request.outcome IsRejection Reply.RejectsToken
  by_cases hl : r.delivery = .lost
  · simp [hl, Failure.isAuthFailure]
  · by_cases hs : r.status.isSuccess
    · have h401 : r.status ≠ 401 := by
        intro h
        simp [h, Status.isSuccess] at hs
      by_cases hc : r.isCut
      · simp [hl, hs, hc, h401, Failure.isAuthFailure]
      · simp [hl, hs, hc, h401]
    · rw [if_neg hl, if_neg hs]
      simp only [Except.error.injEq, exists_eq_left', Reply.isAuthFailure_refusal, ne_eq, hl,
        not_false_eq_true, true_and]

/-- An attempt is rejected exactly by such a reply. -/
theorem Try.Fair.rejected_iff {t : Try} (h : t.Fair) :
    IsRejection t.outcome ↔ ∃ r, t.reply = some r ∧ r.RejectsToken := by
  unfold Fair at h
  cases hr : t.reply with
  | some r =>
    rw [hr] at h
    rw [h, Request.outcome_rejected]
    simp
  | none =>
    rw [hr] at h
    obtain ⟨b, hb⟩ := h
    simp [hb, IsRejection, Failure.isAuthFailure]

/-- What a new token would help with, another attempt would not. -/
theorem SendFailure.not_retryable_of_authFailure {e : SendFailure}
    (h : (Failure.sending e).isAuthFailure) : ¬ e.isRetryable := by
  obtain ⟨_, _, _, _, rfl, rfl | rfl⟩ := Failure.isAuthFailure_sending.mp h
  · simp [isRetryable]
  · simp [isRetryable]

/-- So a rejected attempt is the last one. -/
theorem Watch.rejected_last (others : Others) (q : Request) {policy : RetryPolicy} {s : Scene}
    {k : Nat} {t : Try} (h : (record others q policy s)[k]? = some t) (hr : IsRejection t.outcome) :
    k + 1 = (record others q policy s).length := by
  obtain ⟨e, he, hauth⟩ := hr
  have hlt : k < (record others q policy s).length := ((record_getElem? others q).mp h).1
  have hfollowed := mt (followed_iff others q h).mp
  have hstop : ¬ mayPass t.outcome := by
    rw [he]
    exact SendFailure.not_retryable_of_authFailure hauth
  have hlast := hfollowed fun hf => hstop hf.2
  omega

/-! ## Operations -/

theorem Scene.course_rejected_last (others : Others) (config : Config) (op : Operation) (s : Scene)
    {k : Nat} {t : Try} (h : (s.course others config op).tries[k]? = some t)
    (hr : IsRejection t.outcome) : k + 1 = (s.course others config op).tries.length := by
  have hw := (course_request others config (List.mem_of_getElem? h)).1
  rw [course_record others config hw] at h ⊢
  exact Watch.rejected_last others _ h hr

/-- The last attempt of the course was answered by a rejection of the token. -/
def Course.Rejected (c : Course) : Prop :=
  ∃ t r, c.last? = some t ∧ t.reply = some r ∧ r.RejectsToken

theorem Course.rejected_iff {c : Course} {t : Try} (ht : c.last? = some t) (hf : t.Fair) :
    c.Rejected ↔ IsRejection t.outcome := by
  rw [hf.rejected_iff]
  constructor
  · rintro ⟨t', r, ht', hr⟩
    obtain rfl : t = t' := Option.some.inj (ht.symm.trans ht')
    exact ⟨r, hr⟩
  · rintro ⟨r, hr⟩
    exact ⟨t, r, ht, hr⟩

/-- **Which failures ask for a new token.** An operation that fails does so for
want of a new token exactly if it needs a token that the session does not hold,
and then nothing is sent, or if the last reply was a 401 whose body is no
complaint that asks for a one-time code. No such failure calls for another
attempt, and the attempt that meets it is the last one. -/
theorem authFailure_exactly (others : Others) (config : Config) (op : Operation) (s : Scene) :
    let c := s.course others config op
    (∀ f, c.result = .error f → (f.isAuthFailure ↔ op.Lacks s.session ∨ c.Rejected)) ∧
      (op.Lacks s.session → c.tries = [] ∧ c.after.traffic = s.traffic ∧
        c.after.service = s.service) ∧
      (∀ e : SendFailure, ¬ ((Failure.sending e).isAuthFailure ∧ e.isRetryable)) ∧
      ∀ k t, c.tries[k]? = some t → IsRejection t.outcome → k + 1 = c.tries.length := by
  intro c
  obtain ⟨hsigned, hsending, hunread, _, hconf, _⟩ := (Course.verdict others config op s).exact
  refine ⟨?_, ?_, ?_, ?_⟩
  · intro f hf
    have hlacks : f ≠ .signedOut → ¬ op.Lacks s.session := by
      intro hne hl
      have hr := hf.symm.trans (hsigned.mpr hl)
      exact hne (Except.error.inj hr)
    cases f with
    | signedOut => simp [Failure.isAuthFailure, hsigned.mp hf]
    | unreadable context e =>
      obtain ⟨t, r, ht, hr, hw, _⟩ := (hunread context e).mp hf
      have hfair := (Scene.course_request others config (List.mem_of_getLast? ht)).2.2
      -- what is read is the body of a success
      have hok : t.outcome = .ok r.content := hfair.outcome_eq_ok.mpr ⟨r, hr, hw, rfl⟩
      rw [Course.rejected_iff ht hfair, hok]
      simp [Failure.isAuthFailure, hlacks, IsRejection]
    | sending e =>
      obtain ⟨_, t, ht, ho⟩ := (hsending e).mp hf
      have hfair := (Scene.course_request others config (List.mem_of_getLast? ht)).2.2
      rw [Course.rejected_iff ht hfair, ho]
      simp [hlacks, IsRejection]
    | misconfigured fault => exact absurd hf (hconf fault)
  · intro hl
    have hw := Operation.wanting_of_lacks hl
    obtain ⟨htries, htraffic⟩ := Scene.course_untried others config hw
    exact ⟨htries, htraffic, Scene.course_unused others config hw⟩
  · rintro e ⟨hauth, hretry⟩
    exact SendFailure.not_retryable_of_authFailure hauth hretry
  · exact fun k t => Scene.course_rejected_last others config op s

/-- After the fault of a server, the service asks for a one-time code in a
complaint of which one field is malformed. It cannot be read, so the failure is
for want of a new token. -/
theorem authFailure_exactly_garbled :
    let config : Config := { endpoint := "https://id.example", clientId := "app" }
    let service : Service := {
      reachable := true
      replies := [{ status := 502 },
        { status := 401
          body := Utf8.encode "\x7b\"code\":\"TOTP_REQUIRED\",\"message\":5\x7d" }] }
    let s : Scene := { session := ⟨some "a", some ⟨60, 0⟩, none⟩, clock := ⟨0, 0⟩, service }
    let c := s.course (fun _ => []) config .profile
    let f : Failure :=
      .sending (.refused 401 .authenticationFailed "Authentication failed" none)
    c.result = .error f ∧ f.isAuthFailure ∧ ¬ Operation.profile.Lacks s.session ∧ c.Rejected := by
  intro config service s c f
  have hresult : c.result = .error f := by decide +kernel
  have hlacks : ¬ Operation.profile.Lacks s.session := by simp [Operation.Lacks, s]
  have hiff := (authFailure_exactly (fun _ => []) config .profile s).1 f hresult
  exact ⟨hresult, rfl, hlacks, (hiff.mp rfl).resolve_left hlacks⟩

end SignOn
