import SignOn.Proofs.Capture

/-!
Signing off, and revoking the access token. Both end the session on this side,
whether or not the service hears of it.

* `Watch.answered_record`: the service hears of all attempts of a loop or of none;
* `Operation.request_legal`: which access tokens can stand in a header;
* `Scene.course_signedOff`: what is left of the session;
* `signed_off_locally`: the whole account, for a first call and for another one
  right after it.
-/

namespace SignOn

/-- The service hears of all the attempts of a loop, or of none. -/
theorem Watch.answered_record (others : Others) (q : Request) (policy : RetryPolicy) (s : Scene) :
    answered (record others q policy s) =
      if s.service.receives q then List.replicate (record others q policy s).length q else [] := by
  obtain ⟨n, _, hrec⟩ := run_tries others q policy s
  rw [hrec, answered]
  by_cases h : s.service.receives q
  · have hreply : ∀ k, ((stage others q s k).tried others q).reply.isSome := by
      intro k
      rw [tried_reply, h]
    have hrequest : ∀ k, ((stage others q s k).tried others q).request = q := fun _ => rfl
    simp [h, List.filter_map, Function.comp_def, hreply, hrequest, List.map_const']
  · have hreply : ∀ k, ((stage others q s k).tried others q).reply.isSome = false := by
      intro k
      rw [tried_reply, Bool.eq_false_iff]
      exact h
    simp [h, List.filter_map, Function.comp_def, hreply]

namespace Operation

/-- An access token stands in a header, and the client id in another. -/
theorem request_legal (config : Config) {op : Operation} (h : op.tokenUse = .access)
    (token : String) :
    (op.request config (some token)).hasLegalHeaders ↔
      Header.isLegal config.clientId ∧ Header.isLegal token := by
  have hbearer : Header.isLegal ("Bearer " ++ token) = Header.isLegal token := by
    rw [Header.isLegal_append]
    rfl
  by_cases ht : token = ""
  · subst ht
    simp [Request.hasLegalHeaders, request, Config.request, h, nonEmpty?, Header.isLegal]
  · simp [Request.hasLegalHeaders, request, Config.request, h, nonEmpty_of_ne ht, hbearer]

/-- The operations that end a session. -/
def SignsOff : Operation → Prop
  | .logout | .revoke => True
  | _ => False

namespace SignsOff

variable {op : Operation}

theorem tokenUse (h : op.SignsOff) : op.tokenUse = .access := by
  cases op with
  | logout | revoke => rfl
  | _ => exact h.elim

theorem land (h : op.SignsOff) (held : Session) (o : Outcome) :
    op.land held o = (.ok .done, some .clear) := by
  cases op with
  | logout | revoke => rfl
  | _ => exact h.elim

end SignsOff

/-- Without an access token there is nothing to revoke; what is left then is the
session as it was. -/
def Spares (held : Session) : Operation → Prop
  | .revoke => held.accessToken = none
  | _ => False

end Operation

namespace Scene

variable (others : Others) (config : Config) {op : Operation} {s : Scene}

/-- What is left of the session when an operation has ended it. -/
theorem course_signedOff (h : op.SignsOff) :
    let c := s.course others config op
    c.result = .ok .done ∧
      (op.Spares s.session → c.after.session = s.session) ∧
      (¬ op.Spares s.session → c.after.session = .empty) := by
  intro c
  by_cases hw : op.Wanting s.session
  · have hc : c = _ := course_of_wanting others config hw
    have ht : s.session.accessToken = none := (Operation.wanting_access h.tokenUse).mp hw
    cases op with
    | logout => exact hc ▸ ⟨rfl, False.elim, fun _ => rfl⟩
    | revoke => exact hc ▸ ⟨rfl, fun _ => rfl, fun hn => absurd ht hn⟩
    | _ => exact h.elim
  · obtain ⟨_, _, t, _, hresult, hsession⟩ := course_of_sent others config hw
    have ht : ¬ op.Spares s.session := by
      cases op with
      | revoke => exact fun hs => hw ((Operation.wanting_access rfl).mpr hs)
      | _ => exact id
    rw [h.land] at hresult hsession
    -- the end of the session is written last, after all that the others did
    exact ⟨hresult, fun hs => absurd hs ht, fun _ => hsession⟩

/-- The service hears of the end of a session if there is an access token, it can
be sent, and there is an address to send it to. -/
theorem course_notifies (h : op.SignsOff) :
    (s.course others config op).after.traffic.requests ≠ s.traffic.requests ↔
      ∃ token, s.session.accessToken = some token ∧ Header.isLegal token ∧
        Header.isLegal config.clientId ∧
        s.service.library.reads (Address.canonical (config.url op.path)) ∧
        s.service.reachable := by
  rw [course_requests, ne_eq, List.append_right_eq_self]
  cases ht : s.session.accessToken with
  | none =>
    have hw : op.Wanting s.session := (Operation.wanting_access h.tokenUse).mpr ht
    rw [(course_untried others config hw).1]
    simp [answered]
  | some token =>
    have hw : ¬ op.Wanting s.session := by simp [Operation.wanting_access h.tokenUse, ht]
    have htoken : op.token s.session = some token := by
      rw [Operation.token, h.tokenUse]
      exact ht
    have hpos := Watch.record_pos others (op.request config (some token)) config.policy s
    rw [course_record others config hw, htoken, Watch.answered_record]
    simp only [Service.receives, Library.builds, Bool.and_eq_true, Operation.request_url,
      Operation.request_legal config h.tokenUse]
    by_cases hr : (s.service.library.reads (Address.canonical (config.url op.path)) ∧
        Header.isLegal config.clientId ∧ Header.isLegal token) ∧ s.service.reachable
    · have hne : (Watch.record others (op.request config (some token)) config.policy s).length ≠ 0 :=
        Nat.ne_of_gt hpos
      simp [hr, List.replicate_eq_nil_iff, hne]
    · rw [if_neg hr]
      simp only [not_true_eq_false, Option.some.injEq, false_iff]
      rintro ⟨_, rfl, hl, hc, hreads, hreach⟩
      exact hr ⟨⟨hreads, hc, hl⟩, hreach⟩

end Scene

/-- **Signing off is local.** It succeeds whatever the service answers and
whatever others do in the meantime, and it leaves an empty session; so does
revoking an access token, which leaves the session alone if there is none. The
service hears of it exactly if there is an access token, all headers can be sent,
and there is an address to send them to. Right after it, with any service and
anyone about, another call makes no attempt and changes nothing. -/
theorem signed_off_locally (others : Others) (config : Config) (op : Operation) (s : Scene)
    (h : op.SignsOff) :
    let c := s.course others config op
    c.result = .ok .done ∧
    (op = .logout ∨ s.session.accessToken ≠ none → c.after.session = .empty) ∧
    (op = .revoke → s.session.accessToken = none → c.after.session = s.session) ∧
    (c.after.traffic.requests ≠ s.traffic.requests ↔
      ∃ token, s.session.accessToken = some token ∧ Header.isLegal token ∧
        Header.isLegal config.clientId ∧
        s.service.library.reads (Address.canonical (config.url op.path)) ∧
        s.service.reachable) ∧
    (s.session.accessToken = none → c.tries = [] ∧ c.after.traffic = s.traffic) ∧
    ∀ (others' : Others) (service : Service),
      let again := (c.after.facing service).course others' config op
      again.result = .ok .done ∧ again.tries = [] ∧ again.after.traffic = {} ∧
        again.after.service = service ∧ again.after.session = c.after.session := by
  intro c
  obtain ⟨hresult, hspared, hcleared⟩ := Scene.course_signedOff others config h (s := s)
  have hwant := fun held => Operation.wanting_access (s := held) h.tokenUse
  have hspares : op.Spares s.session → op = .revoke ∧ s.session.accessToken = none := by
    intro hs
    cases op with
    | revoke => exact ⟨rfl, hs⟩
    | _ => exact hs.elim
  -- Spared or cleared, the session holds no access token.
  have hgone : c.after.session.accessToken = none := by
    by_cases hs : op.Spares s.session
    · rw [hspared hs]
      exact (hspares hs).2
    · rw [hcleared hs]
      rfl
  refine ⟨hresult, ?_, ?_, Scene.course_notifies others config h,
    fun ht => Scene.course_untried others config ((hwant _).mpr ht), ?_⟩
  · intro hop
    refine hcleared fun hs => ?_
    obtain ⟨rfl, ht⟩ := hspares hs
    rcases hop with hop | hop
    · cases hop
    · exact hop ht
  · rintro rfl ht
    exact hspared ht
  · intro others' service again
    have hw : op.Wanting (c.after.facing service).session := (hwant _).mpr hgone
    obtain ⟨hresult', hspared', hcleared'⟩ :=
      Scene.course_signedOff others' config h (s := c.after.facing service)
    have huntried := Scene.course_untried others' config hw
    refine ⟨hresult', huntried.1, huntried.2, ?_, ?_⟩
    · exact Scene.course_unused others' config hw
    · by_cases hs : op.Spares (c.after.facing service).session
      · exact hspared' hs
      · have hs' : ¬ op.Spares s.session := by
          intro hs'
          apply hs
          rw [(hspares hs').1]
          exact hgone
        exact (hcleared' hs).trans (hcleared hs').symm

/-- A token with a line feed in it is revoked: all three attempts fail before
they are sent, others sign on in the meantime, and the session is empty all the
same. -/
theorem signed_off_locally_unsendable :
    let config : Config := { endpoint := "https://id.example", clientId := "app", maxRetries := 2 }
    let others : Others := fun _ => [.write (.install ⟨"b", 60, some "r"⟩)]
    let s : Scene :=
      { session := Session.empty.write ⟨0, 0⟩ (.install ⟨"a\nb", 60, some "r"⟩)
        clock := ⟨0, 0⟩, service := { reachable := true, replies := [{ status := 204 }] } }
    let c := s.course others config .revoke
    Operation.revoke.SignsOff ∧ c.tries.length = 3 ∧ c.result = .ok .done ∧
      c.after.session = .empty ∧ c.after.traffic.requests = [] := by
  intro config others s c
  obtain ⟨hresult, hcleared, _, hsent, _⟩ :=
    signed_off_locally others config .revoke s trivial
  have hlength : c.tries.length = 3 := by decide +kernel
  refine ⟨trivial, hlength, hresult, hcleared (Or.inr nofun), ?_⟩
  by_contra hne
  obtain ⟨token, ht, hl, _⟩ := hsent.mp hne
  cases ht
  exact absurd hl (by decide)

end SignOn
