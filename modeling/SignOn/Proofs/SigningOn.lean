import SignOn.Proofs.Provenance
import SignOn.Proofs.Taxonomy

/-!
Signing on and renewing, the two operations that obtain an access token.

* `Operation.Obtains.land_ok_iff`: they succeed exactly with a grant in the body;
* `obtained_exactly`: what the client holds afterwards, whatever others do in
  the meantime;
* `success_without_session`: a grant of an empty access token is a success that
  leaves nobody signed on.
-/

namespace SignOn

/-- The operations that obtain an access token. -/
def Operation.Obtains : Operation → Prop
  | .login _ | .refresh => True
  | _ => False

/-- A write with an access token leaves the session authenticated and with an
expiry; any other leaves it with neither. -/
theorem Session.write_authenticates (s : Session) (now : Instant) (w : Session.Write) :
    ((s.write now w).isAuthenticated ↔ w.access?.isSome) ∧
      ((s.write now w).expiresAt.isSome ↔ w.access?.isSome) := by
  obtain ⟨htoken, hexpiry⟩ := Prod.mk.inj (s.write_access now w)
  rw [isAuthenticated, htoken, hexpiry]
  simp

namespace Operation.Obtains

variable {op : Operation}

/-- A grant that can be read is written, with its access token if there is one. -/
theorem writes (h : op.Obtains) {body : List UInt8} {grant : Grant}
    (hd : Json.decode Grant.reader body = .ok grant) :
    ∃ w, op.Writes (.ok body) w ∧ (w.access?.isSome ↔ grant.accessToken ≠ "") := by
  rw [← nonEmpty?_isSome]
  cases op with
  | login => exact ⟨_, .login hd, by simp [Session.Write.access?]⟩
  | refresh => exact ⟨_, .refresh hd, by simp [Session.Write.access?]⟩
  | _ => exact h.elim

theorem land_ok_iff (h : op.Obtains) (held : Session) {o : Outcome} :
    (∃ a, (op.land held o).1 = .ok a) ↔
      ∃ grant body, o = .ok body ∧ Json.decode Grant.reader body = .ok grant := by
  constructor
  · rintro ⟨a, ha⟩
    obtain ⟨hh, _⟩ | ⟨_, e, rfl, hl⟩ | ⟨_, body, why, rfl, _, hl⟩ | ⟨_, body, _, _, rfl, hm, _⟩ :=
      op.land_cases held o
    · cases op with
      | login | refresh => exact absurd trivial hh
      | _ => exact h.elim
    · rw [hl] at ha
      cases ha
    · rw [hl] at ha
      cases ha
    · cases op with
      | login | refresh =>
        obtain ⟨grant, hd, _⟩ := decodeAs_of_readable hm
        exact ⟨grant, body, rfl, hd⟩
      | _ => exact h.elim
  · rintro ⟨grant, body, rfl, hd⟩
    obtain ⟨w, hw, _⟩ := h.writes hd
    exact ⟨_, congrArg Prod.fst (hw.land held)⟩

end Operation.Obtains

/-! ## What is obtained -/

namespace Course

variable {c : Course}

/-- The last attempt of a course was a success that arrived whole, with a grant. -/
def Granted (c : Course) (grant : Grant) : Prop :=
  ∃ t r, c.last? = some t ∧ t.reply = some r ∧ r.IsWholeSuccess ∧
    Json.decode Grant.reader r.content = .ok grant

/-- Without an attempt nothing is granted. -/
theorem not_granted (h : c.tries = []) (grant : Grant) : ¬ c.Granted grant := by
  rintro ⟨t, r, ht, _⟩
  rw [last?, h] at ht
  cases ht

theorem granted_iff {t : Try} (ht : c.last? = some t) (hf : t.Fair) {grant : Grant} :
    c.Granted grant ↔ ∃ body, t.outcome = .ok body ∧ Json.decode Grant.reader body = .ok grant :=
  yields_iff ht hf

end Course

/-- **What is obtained.** Signing on and renewing succeed exactly if their last
reply was a whole success with a grant in it. The client is authenticated then,
and its token has an expiry, exactly if the access token granted is not empty.
Others may do in the meantime what they like. -/
theorem obtained_exactly (others : Others) (config : Config) (op : Operation) (s : Scene)
    (h : op.Obtains) :
    let c := s.course others config op
    ((∃ a, c.result = .ok a) ↔ ∃ grant, c.Granted grant) ∧
      ∀ grant, c.Granted grant →
        (c.after.session.isAuthenticated ↔ grant.accessToken ≠ "") ∧
        (c.after.session.expiresAt.isSome ↔ grant.accessToken ≠ "") := by
  intro c
  by_cases hw : op.Wanting s.session
  · have hnone : ∀ grant, ¬ c.Granted grant :=
      Course.not_granted (Scene.course_untried others config hw).1
    have hresult : c.result = .error .signedOut := by
      rw [show c = _ from Scene.course_of_wanting others config hw]
      cases op with
      | login => exact absurd rfl hw.1
      | refresh => rfl
      | _ => exact h.elim
    exact ⟨by simp [hresult, hnone], fun grant hg => absurd hg (hnone grant)⟩
  · obtain ⟨hfair, _, t, ht, hresult, hsession⟩ := Scene.course_of_sent others config hw
    have hgranted : ∀ grant, c.Granted grant ↔
        ∃ body, t.outcome = .ok body ∧ Json.decode Grant.reader body = .ok grant := fun _ =>
      Course.granted_iff ht (hfair t (List.mem_of_getLast? ht)).2
    constructor
    · simp only [hgranted, ← h.land_ok_iff s.session]
      exact exists_congr fun a => by rw [← hresult]
    · intro grant hg
      obtain ⟨body, ho, hd⟩ := (hgranted grant).mp hg
      obtain ⟨w, hwrites, hsome⟩ := h.writes hd
      -- the write of the landing is the last one, so it alone counts
      have hafter : c.after.session =
          (s.happenAll c.events).session.write (s.happenAll c.events).clock w := by
        refine hsession.trans ?_
        rw [ho, Operation.land_write_iff.mpr hwrites]
        rfl
      rw [hafter, ← hsome]
      exact Session.write_authenticates _ _ w

/-- A token is renewed at the second attempt; the session was cleared before it. -/
theorem obtained_exactly_renewal :
    let config : Config := { endpoint := "https://id.example", clientId := "app" }
    let service : Service := {
      reachable := true
      replies := [{ status := 503, meanwhile := [.write .clear] },
        { body := Utf8.encode "\x7b\"accessToken\":\"a\",\"expiresIn\":60\x7d" }] }
    let s : Scene := { session := ⟨none, none, some "r"⟩, clock := ⟨0, 0⟩, service }
    let c := s.course (fun _ => []) config .refresh
    Operation.refresh.Obtains ∧ c.result = .ok .done ∧
      ∃ grant, c.Granted grant ∧ grant.accessToken ≠ "" := by
  intro config service s c
  have hresult : c.result = .ok .done := by decide +kernel
  have hauth : c.after.session.isAuthenticated := by decide +kernel
  obtain ⟨hiff, hobtained⟩ := obtained_exactly (fun _ => []) config .refresh s trivial
  obtain ⟨grant, hg⟩ := hiff.mp ⟨.done, hresult⟩
  exact ⟨trivial, hresult, grant, hg, (hobtained grant hg).1.mp hauth⟩

/-- A grant of an empty access token is a success after which nobody is signed
on, not even who was before. -/
theorem success_without_session :
    let config : Config := { endpoint := "https://id.example", clientId := "app" }
    let service : Service := {
      reachable := true
      replies := [{ body := Utf8.encode "\x7b\"accessToken\":\"\",\"expiresIn\":60\x7d" }] }
    let s : Scene :=
      { session := ⟨some "a", some ⟨60, 0⟩, some "r"⟩, clock := ⟨0, 0⟩, service }
    let login := s.perform config (.login ⟨"u@x.com", "p", none⟩)
    let renewal := s.perform config .refresh
    (login.1 = .ok .done ∧ ¬ login.2.session.isAuthenticated ∧
        login.2.session.expiresAt = none) ∧
      renewal.1 = .ok .done ∧ ¬ renewal.2.session.isAuthenticated ∧
        renewal.2.session.expiresAt = none := by
  intro config service s login renewal
  decide +kernel

end SignOn
