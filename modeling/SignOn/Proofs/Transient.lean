import SignOn.Proofs.Landing
import SignOn.Proofs.Record

/-!
Which attempts have another one after them, judged by the request and by the
reply that the HTTP library hands over. The library stands between the reply and
the service: it does not build a request to an address that it cannot read, and
it follows redirects within the attempt. A reply of the service that it does not
follow is handed over with its status, its headers and the bytes of its body.

* `Refusal.ofHints_eq_serverError`: which refusals are the fault of a server;
* `Request.mayPass_outcome`: the replies after which another attempt may help;
* `followed_exactly`: the attempts of a loop that are followed by another one;
* `followed_after_redirect`: a redirect is not always the last reply.
-/

namespace SignOn

/-! ## Replies that call for another attempt -/

/-- The fault of a server is a status in the five hundreds, unless the body
names a missing device. -/
theorem Refusal.ofHints_eq_serverError {status : Status} {code : Option String}
    {requiresTotp : Bool} :
    Refusal.ofHints status code requiresTotp = .serverError ↔
      status.isServerError ∧ code ≠ some "DEVICE_NOT_AVAILABLE" := by
  unfold Refusal.ofHints
  by_cases h401 : status = 401
  · subst h401
    simp only [Status.isServerError, if_true]
    repeat' split
    all_goals simp
  · by_cases h403 : status = 403
    · subst h403
      simp [Status.isServerError]
    · by_cases hcode : code = some "DEVICE_NOT_AVAILABLE"
      · simp [h401, h403, hcode]
      · by_cases hs : status.isServerError
        · simp [h401, h403, hcode, hs]
        · simp [h401, h403, hcode, hs]

/-- A body says something exactly if all of it can be read as a complaint that
says so; any other body says nothing. -/
theorem Complaint.ofBody_iff {P : Complaint → Prop} (h : ¬ P silent) {body : List UInt8} :
    P (Complaint.ofBody body) ↔ ∃ c, Json.decode Complaint.reader body = .ok c ∧ P c := by
  unfold Complaint.ofBody
  cases Json.decode Complaint.reader body with
  | ok c => simp
  | error e => simp [h]

namespace Reply

/-- The body of a reply that is no success, as text. A body that breaks off
counts as empty. -/
def wording (r : Reply) : List UInt8 :=
  Utf8.encode (Utf8.decodeLenient (if r.isCut then [] else r.content))

/-- The body is a complaint, and its code is that of a missing device. -/
def NamesMissingDevice (r : Reply) : Prop :=
  ∃ c, Json.decode Complaint.reader r.wording = .ok c ∧ c.code = some "DEVICE_NOT_AVAILABLE"

/-- No answer, a success whose body breaks off, or the fault of a server that
does not lie in a missing device. -/
def IsTransient (r : Reply) : Prop :=
  r.delivery = .lost ∨
  (200 ≤ r.status ∧ r.status ≤ 299 ∧ r.isCut) ∨
  (500 ≤ r.status ∧ r.status ≤ 599 ∧ ¬ r.NamesMissingDevice)

variable {r : Reply}

theorem isRetryable_refusal :
    r.refusal.isRetryable ↔ 500 ≤ r.status ∧ r.status ≤ 599 ∧ ¬ r.NamesMissingDevice := by
  have hcode : r.complaint.code = some "DEVICE_NOT_AVAILABLE" ↔ r.NamesMissingDevice :=
    Complaint.ofBody_iff (P := fun c => c.code = some "DEVICE_NOT_AVAILABLE") (by
      simp [Complaint.silent])
  simp only [refusal, SendFailure.isRetryable, decide_eq_true_eq, Refusal.ofHints_eq_serverError,
    ne_eq, hcode, Status.isServerError, Bool.and_eq_true, and_assoc]

theorem not_transient_of_whole (h : r.IsWholeSuccess) : ¬ r.IsTransient := by
  obtain ⟨hs, hl, hc⟩ := h
  simp only [Status.isSuccess, Bool.and_eq_true, decide_eq_true_eq] at hs
  rintro (hlost | ⟨_, _, hcut⟩ | ⟨h500, _⟩)
  · exact hl hlost
  · exact hc hcut
  · exact absurd (Nat.le_trans h500 hs.2) (by decide)

/-- Outside the two hundreds and the five hundreds, an answer is final. -/
theorem not_transient_of_status (hl : r.delivery ≠ .lost)
    (h : 300 ≤ r.status ∧ r.status ≤ 499 ∨ 600 ≤ r.status) : ¬ r.IsTransient := by
  rintro (hlost | ⟨_, h299, _⟩ | ⟨h500, h599, _⟩)
  · exact hl hlost
  · rcases h with ⟨h300, _⟩ | h600
    · exact absurd (Nat.le_trans h300 h299) (by decide)
    · exact absurd (Nat.le_trans h600 h299) (by decide)
  · rcases h with ⟨_, h499⟩ | h600
    · exact absurd (Nat.le_trans h500 h499) (by decide)
    · exact absurd (Nat.le_trans h600 h599) (by decide)

theorem transient_of_unreadable (h500 : 500 ≤ r.status) (h599 : r.status ≤ 599)
    (h : ∀ c, Json.decode Complaint.reader r.wording ≠ .ok c) : r.IsTransient := by
  refine Or.inr (Or.inr ⟨h500, h599, ?_⟩)
  rintro ⟨c, hc, _⟩
  exact h c hc

end Reply

/-- An attempt that the service answers may be worth another one exactly if the
reply says so. -/
theorem Request.mayPass_outcome {q : Request} {r : Reply} :
    mayPass (q.outcome r) ↔ r.IsTransient := by
  unfold outcome
  by_cases hl : r.delivery = .lost
  · simp [hl, mayPass, SendFailure.isRetryable, Reply.IsTransient]
  · by_cases hs : r.status.isSuccess
    · by_cases hc : r.isCut
      · have hs' := hs
        simp only [Status.isSuccess, Bool.and_eq_true, decide_eq_true_eq] at hs'
        simp [hl, hs, hc, hs', mayPass, SendFailure.isRetryable, Reply.IsTransient]
      · have hw : ¬ r.IsTransient := Reply.not_transient_of_whole ⟨hs, hl, hc⟩
        simp [hl, hs, hc, hw, mayPass]
    · have h2 : ¬ (200 ≤ r.status ∧ r.status ≤ 299) := by
        simpa [Status.isSuccess] using hs
      have hrest : r.IsTransient ↔
          500 ≤ r.status ∧ r.status ≤ 599 ∧ ¬ r.NamesMissingDevice := by
        rw [Reply.IsTransient]
        tauto
      rw [if_neg hl, if_neg hs, hrest]
      exact Reply.isRetryable_refusal

/-! ## Attempts that are followed by another one -/

/-- The request cannot be built, nothing comes back, or a reply is handed over
after which another attempt may help. -/
def Try.IsTransient (l : Library) (t : Try) : Prop :=
  ¬ l.builds t.request ∨ t.reply = none ∨ ∃ r, t.reply = some r ∧ r.IsTransient

theorem Watch.mayPass_tried (others : Others) (q : Request) (s : Scene) (k : Nat) :
    let t := (stage others q s k).tried others q
    mayPass t.outcome ↔ t.IsTransient s.service.library := by
  intro t
  have hfair : t.Fair := tried_fair others q _
  cases hr : t.reply with
  | some r =>
    have hreceives : s.service.receives q := by
      rw [← tried_reply others q s k]
      exact congrArg Option.isSome hr
    have hbuilds : s.service.library.builds t.request := (Bool.and_eq_true_iff.mp hreceives).1
    rw [hfair.outcome_of_reply hr, Request.mayPass_outcome, Try.IsTransient, hr]
    simp [hbuilds]
  | none =>
    obtain ⟨b, hb⟩ : ∃ b, t.outcome = .error (.network b) := by simpa [Try.Fair, hr] using hfair
    rw [hb, Try.IsTransient, hr]
    simp [mayPass, SendFailure.isRetryable]

/-- **Which attempts are followed by another one.** With retries left it is
those whose request cannot be built, those without an answer, successes whose
body breaks off, and statuses in the five hundreds whose body is not a complaint
about a missing device. So a success that arrives whole is final, and so is any
other status whatever the body says; and a body that is no complaint does not
spare a server another attempt. All this is said of the reply that the library
hands over. If the service sends a redirect that the library follows, this is
the last reply that it comes to, or none; any other reply it hands over as it is. -/
theorem followed_exactly (others : Others) (request : Request) (policy : RetryPolicy) (s : Scene)
    {k : Nat} {t : Try} (h : (Watch.record others request policy s)[k]? = some t) :
    let l := s.service.library
    let followed := k + 1 < (Watch.record others request policy s).length
    (followed ↔ k < policy.limit.toNat ∧ t.IsTransient l) ∧
      (∀ raw, t.raw = some raw →
        ∃ r, t.reply = some r ∧ r = (l.pursue l.redirects request raw).reply ∧
          (¬ l.Follows request raw.toResponse → r = raw ∧ t.sent = []) ∧
          t.sent.length ≤ l.redirects ∧
          (r.delivery = .lost ∨ ∃ last, (request :: t.sent).getLast? = some last ∧
            ¬ l.Follows last r.toResponse)) ∧
      ∀ r, t.reply = some r →
        (r.IsWholeSuccess → ¬ followed) ∧
        (r.delivery ≠ .lost → 300 ≤ r.status ∧ r.status ≤ 499 ∨ 600 ≤ r.status → ¬ followed) ∧
        (k < policy.limit.toNat → 500 ≤ r.status → r.status ≤ 599 →
          (∀ c, Json.decode Complaint.reader r.wording ≠ .ok c) → followed) := by
  intro l followed
  obtain ⟨_, rfl⟩ := (Watch.record_getElem? others request).mp h
  let w := Watch.stage others request s k
  have hiff : followed ↔ k < policy.limit.toNat ∧ (w.tried others request).IsTransient l := by
    have hpass := Watch.mayPass_tried others request s k
    exact (Watch.followed_iff others request h).trans (and_congr_right fun _ => hpass)
  refine ⟨hiff, fun raw hraw => Watch.tried_handed others request hraw, ?_⟩
  intro r hr
  -- with a reply, the reply alone decides
  have hreply : followed → r.IsTransient := by
    intro hf
    have hpass := (Watch.followed_iff others request h).mp hf
    rw [(Watch.tried_fair others request w).outcome_of_reply hr, Request.mayPass_outcome] at hpass
    exact hpass.2
  refine ⟨?_, ?_, ?_⟩
  · intro hw hf
    exact Reply.not_transient_of_whole hw (hreply hf)
  · intro hl hs hf
    exact Reply.not_transient_of_status hl hs (hreply hf)
  · intro hk h500 h599 hbad
    have htransient := Reply.transient_of_unreadable h500 h599 hbad
    exact hiff.mpr ⟨hk, Or.inr (Or.inr ⟨r, hr, htransient⟩)⟩

/-- A server is asked again after a complaint about a missing device in which
one field is malformed, and not again after a complaint that can be read. -/
theorem followed_exactly_missing_device :
    let request : Request :=
      { method := .get, url := "http://id.example/api/v1/devices", clientId := "app"
        authorization := none, body := none }
    let policy : RetryPolicy := ⟨5, .ofSeconds 1⟩
    let garbled : Reply :=
      { status := 503
        body := Utf8.encode "\x7b\"code\":\"DEVICE_NOT_AVAILABLE\",\"requiresTOTP\":null\x7d" }
    let missing : Reply :=
      { status := 503, body := Utf8.encode "\x7b\"code\":\"DEVICE_NOT_AVAILABLE\"\x7d" }
    let s : Scene :=
      { session := .empty, clock := ⟨0, 0⟩
        service := { reachable := true, replies := [garbled, missing] } }
    let tries := Watch.record (fun _ => []) request policy s
    (∃ t, tries[0]? = some t ∧ t.reply = some garbled ∧ 1 < tries.length) ∧
      ∃ t, tries[1]? = some t ∧ t.reply = some missing ∧ ¬ 2 < tries.length := by
  intro request policy garbled missing s tries
  let alone : Others := fun _ => []
  have hgarbled : ∀ c, Json.decode Complaint.reader garbled.wording ≠ .ok c := by
    have hbad : (Json.decode Complaint.reader garbled.wording).isOk = false := by decide +kernel
    intro c hc
    rw [hc] at hbad
    cases hbad
  have hmissing : missing.NamesMissingDevice :=
    ⟨⟨none, some "DEVICE_NOT_AVAILABLE", false, none⟩, by decide +kernel, rfl⟩
  have hreceives : s.service.receives request := by decide
  have hraw : ∀ k, ((Watch.stage alone request s k).tried alone request).raw =
      some (s.service.replies[k]?.getD Service.notFound) := by
    intro k
    rw [Watch.tried_raw, if_pos hreceives]
  -- neither reply is a redirect
  have hstays : ∀ r : Reply, r.status = 503 → ¬ s.service.library.Follows request r.toResponse := by
    rintro r hs ⟨_, hmem, _⟩
    rw [hs] at hmem
    exact absurd hmem (by decide)
  have h0 := (Watch.record_getElem? alone request).mpr
    ⟨Watch.record_pos alone request policy s, rfl⟩
  obtain ⟨_, hhanded, hfirst⟩ := followed_exactly alone request policy s h0
  obtain ⟨r₀, hreply, _, hsame, _⟩ := hhanded garbled (hraw 0)
  obtain ⟨rfl, _⟩ := hsame (hstays garbled rfl)
  have hfollowed : 1 < tries.length :=
    (hfirst garbled hreply).2.2 (by decide) (by decide) (by decide) hgarbled
  have h1 := (Watch.record_getElem? alone request).mpr ⟨hfollowed, rfl⟩
  obtain ⟨hsecond, hhanded', _⟩ := followed_exactly alone request policy s h1
  obtain ⟨r₁, hreply', _, hsame', _⟩ := hhanded' missing (hraw 1)
  obtain ⟨rfl, _⟩ := hsame' (hstays missing rfl)
  refine ⟨⟨_, h0, hreply, hfollowed⟩, _, h1, hreply', ?_⟩
  intro hf
  obtain ⟨_, hunbuilt | hnone | ⟨r, hr, htransient⟩⟩ := hsecond.mp hf
  · exact hunbuilt (by decide)
  · rw [hreply'] at hnone
    cases hnone
  · rw [hreply'] at hr
    cases hr
    obtain hlost | ⟨_, _, hcut⟩ | ⟨_, _, hdevice⟩ := htransient
    · cases hlost
    · cases hcut
    · exact hdevice hmissing

/-- A redirect may be followed by another attempt although it arrived whole, and
is no fault of a server: there is nobody at the address it names. -/
theorem followed_after_redirect :
    let request : Request :=
      { method := .get, url := "http://id.example/api/v1/devices", clientId := "app"
        authorization := some "Bearer a", body := none }
    let policy : RetryPolicy := ⟨1, .ofSeconds 1⟩
    let moved : Reply :=
      { status := 302, headers := [("Location", "http://127.0.0.1:9/")]
        beyond := [{ delivery := .lost }] }
    let s : Scene :=
      { session := .empty, clock := ⟨0, 0⟩
        service := { reachable := true, replies := [moved] } }
    let tries := Watch.record (fun _ => []) request policy s
    s.service.library.builds request ∧ moved.delivery = .whole ∧ ¬ moved.IsTransient ∧
      ∃ t, tries[0]? = some t ∧ t.raw = some moved ∧ 1 < tries.length := by
  intro request policy moved s tries
  let alone : Others := fun _ => []
  have hreceives : s.service.receives request := by decide
  have hfinal : ¬ moved.IsTransient :=
    Reply.not_transient_of_status (by decide) (Or.inl ⟨by decide, by decide⟩)
  have h0 := (Watch.record_getElem? alone request).mpr
    ⟨Watch.record_pos alone request policy s, rfl⟩
  have hraw : ((Watch.stage alone request s 0).tried alone request).raw = some moved := by
    rw [Watch.tried_raw, if_pos hreceives]
    rfl
  have hagain : 1 < tries.length := by decide +kernel
  exact ⟨by decide, rfl, hfinal, _, h0, hraw, hagain⟩

end SignOn
