import SignOn.Proofs.Addresses
import SignOn.Proofs.Confinement
import SignOn.Proofs.Provenance
import SignOn.Proofs.Record

/-!
An operation takes its token once, at its start. Whatever happens to the session
under way, all its attempts carry that token; and unless the operation is one
that changes the session, the others alone decide what becomes of it.

* `Session.Attainable.access_ne_empty`: no session that there can be holds an empty token;
* `Scene.course_attainable`: an operation among others leaves a session that there can be;
* `Scene.course_session`: an operation that does not alter the session leaves it
  as the others make it;
* `Scene.course_sentOn`: what the library sends on in the course of an operation;
* `token_taken_once`: the tokens in the requests of an operation;
* `token_not_alone`: other credentials beside them, and requests without them.
-/

namespace SignOn

/-! ## Sessions that there can be -/

/-- A session is empty at first, and changes by writes only. -/
inductive Session.Attainable : Session → Prop
  | empty : Attainable .empty
  | write {s : Session} (now : Instant) (w : Session.Write) :
      s.Attainable → (s.write now w).Attainable

theorem Session.Attainable.access_ne_empty {s : Session} (h : s.Attainable) :
    s.accessToken ≠ some "" := by
  cases h with
  | empty => exact nofun
  | write now w _ =>
    cases w with
    | install grant => exact nonEmpty?_ne_empty grant.accessToken
    | renew token lifetime => exact nonEmpty?_ne_empty token
    | clear => exact nofun

/-- Hence the filter for empty tokens lets every access token pass. -/
theorem Session.Attainable.access_filtered {s : Session} (h : s.Attainable) :
    s.accessToken.bind nonEmpty? = s.accessToken := by
  cases ht : s.accessToken with
  | none => rfl
  | some token =>
    apply nonEmpty_of_ne
    rintro rfl
    exact h.access_ne_empty ht

namespace Scene

variable {s : Scene}

theorem happenAll_attainable (h : s.session.Attainable) (events : List Event) :
    (s.happenAll events).session.Attainable := by
  induction events generalizing s with
  | nil => exact h
  | cons e events ih =>
    refine ih (s := s.happen e) ?_
    cases e with
    | write w => exact .write s.clock w h
    | setClock now => exact h

theorem landing_attainable (h : s.session.Attainable) (write : Option Session.Write) :
    (s.landing write).session.Attainable := by
  cases write with
  | none => exact h
  | some w => exact .write s.clock w h

/-- An operation among others leaves a session that there can be. -/
theorem course_attainable (others : Others) (config : Config) (op : Operation)
    (h : s.session.Attainable) : (s.course others config op).after.session.Attainable := by
  by_cases hw : op.Wanting s.session
  · rw [course_of_wanting others config hw]
    exact landing_attainable (happenAll_attainable h _) _
  · obtain ⟨_, _, t, _, _, hsession⟩ := course_of_sent others config hw
    rw [hsession]
    exact landing_attainable (happenAll_attainable h _) _

end Scene

/-! ## Operations that alter the session -/

/-- The operations that end a session, if there is one to end, and those that
obtain an access token. -/
def Operation.Alters (held : Session) (r : Result) : Operation → Prop
  | .logout => True
  | .revoke => held.accessToken ≠ none
  | .login _ | .refresh => ∃ a, r = .ok a
  | _ => False

/-- An operation that writes when it lands is one of those. -/
theorem Operation.Writes.alters {op : Operation} {o : Outcome} {w : Session.Write}
    (h : op.Writes o w) {held : Session} (hs : ¬ op.Wanting held) :
    op.Alters held (op.land held o).1 := by
  have hland := h.land held
  cases h with
  | login _ | refresh _ => exact ⟨.done, congrArg Prod.fst hland⟩
  | logout => exact trivial
  | revoke => exact fun ht => hs ⟨nofun, ht⟩

/-- An operation that does not alter the session leaves it as the others make it. -/
theorem Scene.course_session (others : Others) (config : Config) (op : Operation) (s : Scene)
    (h : ¬ op.Alters s.session (s.course others config op).result) :
    (s.course others config op).after.session =
      (s.happenAll (s.course others config op).events).session := by
  by_cases hw : op.Wanting s.session
  · have hnone : op.withoutToken.2 = none := by
      cases op with
      | logout => exact absurd trivial h
      | _ => rfl
    rw [course_of_wanting others config hw, hnone]
    rfl
  · obtain ⟨_, _, t, _, hresult, hsession⟩ := course_of_sent others config hw
    have hnone : (op.land s.session t.outcome).2 = none := by
      cases hl : (op.land s.session t.outcome).2 with
      | none => rfl
      | some w =>
        have halters := (Operation.land_write_iff.mp hl).alters hw
        rw [← hresult] at halters
        exact absurd halters h
    rw [hsession, hnone]
    rfl

/-! ## The tokens in the requests -/

namespace Operation

variable {s : Session}

/-- The operations that act for a person, by the access token. -/
def ActsForPerson : Operation → Prop
  | .strengthen _ | .logout | .revoke | .current | .profile | .roles | .hasPermission _
  | .deviceList | .deviceStatus | .verifyDocument _ | .documentStatus | .revokeDocument => True
  | .login _ | .refresh | .enroll | .machineToken _ | .revokeMachine _ => False

theorem ActsForPerson.tokenUse {op : Operation} (h : op.ActsForPerson) : op.tokenUse = .access := by
  cases op with
  | login | refresh | enroll | machineToken | revokeMachine => exact h.elim
  | _ => rfl

theorem wanting_access {op : Operation} (h : op.tokenUse = .access) :
    op.Wanting s ↔ s.accessToken = none := by
  simp [Wanting, token, h]

theorem wanting_renewal : refresh.Wanting s ↔ s.refreshToken = none := by
  simp [Wanting, token, tokenUse]

end Operation

namespace Scene

variable (others : Others) (config : Config) {op : Operation} {s : Scene}

/-- What the library sends on in a course comes of the request of an attempt, and
of a reply to that which is a redirect. -/
theorem course_sentOn {t : Try} (ht : t ∈ (s.course others config op).tries) :
    (∀ p ∈ t.sent, t.request.Relayed p) ∧
      (t.sent ≠ [] → ∃ r, t.raw = some r ∧
        s.service.library.Follows t.request r.toResponse) := by
  obtain ⟨k, rfl⟩ := course_staged others config ht
  obtain ⟨hrelayed, hfollowed⟩ := Watch.tried_sent others _ s k
  exact ⟨hrelayed, fun hs => (hfollowed hs).2⟩

/-- The headers of an attempt: what the endpoint adds, and then the access token
if the operation acts for a person. -/
theorem course_authorizations (h : s.session.Attainable) {t : Try}
    (ht : t ∈ (s.course others config op).tries) :
    t.request.authorizations =
      (config.credentials op.path).toList ++ (op.bearer s.session).toList := by
  rw [(course_request others config ht).2.1, Request.authorizations, op.request_credentials,
    op.request_bearer config h.access_filtered]

end Scene

/-- **A token is taken once.** Whatever others do with the session under way,
all attempts of an operation that acts for a person carry the access token held
at its start in their header, and there are none if no token was held; all
attempts of a renewal carry the refresh token held at its start in their body,
and no access token. If the endpoint has user information, that stands in a
header of its own. The service receives no other requests. The library sends a
request on only for a reply that is a redirect, with the same authorization or
without any, and with the same body or without one. Unless the operation alters
the session, that is left as the others make it. -/
theorem token_taken_once (others : Others) (config : Config) (op : Operation) (s : Scene)
    (h : s.session.Attainable) :
    let c := s.course others config op
    let added := (config.credentials op.path).toList
    (op.ActsForPerson →
      (∀ token, s.session.accessToken = some token → c.tries ≠ [] ∧
        ∀ t ∈ c.tries, t.request.authorizations = added ++ ["Bearer " ++ token]) ∧
      (s.session.accessToken = none → c.tries = [] ∧ c.after.traffic = s.traffic)) ∧
    (op = .refresh →
      (∀ token, s.session.refreshToken = some token → c.tries ≠ [] ∧
        ∀ t ∈ c.tries, t.request.authorizations = added ∧
          t.request.body = some (Json.object [("refreshToken", .text token)]).render) ∧
      (s.session.refreshToken = none → c.tries = [] ∧ c.after.traffic = s.traffic)) ∧
    ('@' ∉ config.endpoint.toList → added = []) ∧
    c.after.traffic.requests = s.traffic.requests ++ answered c.tries ∧
    (c.after.traffic.onward = s.traffic.onward ++ c.tries.flatMap Try.sent ∧
      ∀ t ∈ c.tries, (∀ p ∈ t.sent, t.request.Relayed p) ∧
        (t.sent ≠ [] → ∃ r, t.raw = some r ∧
          s.service.library.Follows t.request r.toResponse)) ∧
    (¬ op.Alters s.session c.result → c.after.session = (s.happenAll c.events).session) := by
  intro c added
  obtain ⟨hrequests, honward⟩ := Scene.course_traffic others config op s
  refine ⟨?_, ?_, ?_, hrequests, ⟨honward, fun t ht => Scene.course_sentOn others config ht⟩,
    Scene.course_session others config op s⟩
  · intro hacts
    have huse := hacts.tokenUse
    have hwant := Operation.wanting_access (s := s.session) huse
    refine ⟨?_, fun ht => Scene.course_untried others config (hwant.mpr ht)⟩
    intro token ht
    have hw : ¬ op.Wanting s.session := by simp [hwant, ht]
    refine ⟨(Scene.course_tried others config hw).1, ?_⟩
    intro t hmem
    rw [Scene.course_authorizations others config h hmem, Operation.bearer_eq, if_pos huse, ht]
    rfl
  · rintro rfl
    have hwant := Operation.wanting_renewal (s := s.session)
    refine ⟨?_, fun ht => Scene.course_untried others config (hwant.mpr ht)⟩
    intro token ht
    have hw : ¬ Operation.refresh.Wanting s.session := by simp [hwant, ht]
    obtain ⟨hne, hall⟩ := Scene.course_tried others config hw
    refine ⟨hne, ?_⟩
    intro t hmem
    have hbody : t.request.body = s.session.renewal := by
      rw [hall t hmem, Session.request_renewal config hw]
    rw [hbody, Session.renewal, ht, Scene.course_authorizations others config h hmem]
    exact ⟨List.append_nil _, rfl⟩
  · intro hplain
    have hnone := Config.credentials_of_plain hplain op
    simp [added, hnone]

/-- An expired token is renewed and then taken away under way; all three
attempts carry it nevertheless, and the session stays as the others left it. -/
theorem token_taken_once_replaced :
    let config : Config := { endpoint := "https://id.example", clientId := "app" }
    let service : Service := {
      reachable := true
      replies := [{ status := 503, meanwhile := [.write (.renew "b" 60)] },
        { status := 503, meanwhile := [.write .clear] }, { status := 204 }] }
    let others : Others := fun _ => [.setClock ⟨120, 0⟩]
    let s : Scene :=
      { session := Session.empty.write ⟨0, 0⟩ (.install ⟨"a", 60, some "r"⟩), clock := ⟨60, 0⟩
        service }
    let c := s.course others config .revokeDocument
    s.session.Attainable ∧ s.session.isExpired s.clock ∧ c.tries.length = 3 ∧
      (∀ t ∈ c.tries, t.request.authorizations = ["Bearer a"]) ∧
      c.after.session = (s.happenAll c.events).session := by
  intro config service others s c
  have h : s.session.Attainable := .write ⟨0, 0⟩ (.install ⟨"a", 60, some "r"⟩) .empty
  have hlength : c.tries.length = 3 := by decide +kernel
  obtain ⟨haccess, _, hplain, _, _, hsession⟩ := token_taken_once others config .revokeDocument s h
  rw [hplain (by decide)] at haccess
  exact ⟨h, by decide, hlength, ((haccess trivial).1 "a" rfl).2, hsession id⟩

/-- A renewal through an endpoint with user information has a header for that. If
the service redirects them, the library sends a renewal on without its body, and
a call to another host without its token. -/
theorem token_not_alone :
    let guarded : Config := { endpoint := "http://user:pw@id.example", clientId := "app" }
    let plain : Config := { endpoint := "http://id.example", clientId := "app" }
    let moved (status : Status) : Reply :=
      { status, headers := [("Location", "http://other.example/")], beyond := [{ status := 204 }] }
    let s (reply : Reply) : Scene :=
      { session := ⟨some "a", some ⟨60, 0⟩, some "r"⟩, clock := ⟨0, 0⟩
        service := { reachable := true, replies := [reply] } }
    let tries (config : Config) (op : Operation) (reply : Reply) : List Try :=
      ((s reply).course (fun _ => []) config op).tries
    guarded.check = .ok () ∧ plain.check = .ok () ∧
      (tries guarded .refresh {}).map (·.request.authorizations) = [["Basic dXNlcjpwdw=="]] ∧
      (tries plain .refresh (moved 302)).flatMap (·.sent.map Request.body) = [none] ∧
      (tries plain .profile (moved 307)).flatMap (·.sent.map Request.authorizations) = [[]] := by
  intro guarded plain moved s tries
  decide +kernel

end SignOn
