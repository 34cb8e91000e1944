import SignOn.Proofs.Taxonomy
import SignOn.Proofs.WellFormed

/-!
Looking at one's own session. The token and its expiry are taken together, at the
start; the user comes from the service.

* `Operation.land_current`: what is made of the last attempt;
* `Scene.course_current_signedOff`, `Scene.course_current_signedOn`: the course without
  a token and with one;
* `introspection_exactly`: the whole account.
-/

namespace SignOn

namespace Operation

/-- The request for the user behind a token. -/
def userinfo (config : Config) (token : String) : Request where
  method := .get
  url := Address.canonical (config.url "/api/v1/userinfo")
  clientId := config.clientId
  credentials := config.credentials "/api/v1/userinfo"
  authorization := some ("Bearer " ++ token)
  body := none

theorem current_request (config : Config) {held : Session} (h : held.Attainable) {token : String}
    (ht : held.accessToken = some token) :
    current.request config (current.token held) = userinfo config token := by
  have hfilter := h.access_filtered
  rw [ht, Option.bind_some] at hfilter
  have htoken : current.token held = some token := ht
  rw [htoken]
  simp only [request, Config.request, tokenUse, if_true, Option.bind_some, hfilter]
  rfl

/-- With an attempt that yields a user, that user is signed on until the expiry held at
the start; with any other, there is no answer. -/
theorem land_current (held : Session) (o : Outcome) (a : Answer) :
    (current.land held o).1 = .ok a ↔
      ∃ user, (∃ body, o = .ok body ∧ Json.decode Profile.reader body = .ok user) ∧
        a = .standing ⟨true, some user, held.expiresAt⟩ := by
  have hheeds : current.Heeds := trivial
  cases o with
  | error e =>
    rw [land_failed hheeds]
    simp
  | ok body =>
    rw [land_of_heeds hheeds, succeed]
    cases hd : Json.decode Profile.reader body with
    | error e =>
      have hread : decodeAs "userinfo" Profile.reader body = .error (.unreadable "userinfo" e) := by
        rw [decodeAs, hd]
      rw [hread]
      simp [hd, bind, Except.bind]
    | ok user =>
      have hread : decodeAs "userinfo" Profile.reader body = .ok user := by rw [decodeAs, hd]
      rw [hread]
      simp [hd, bind, Except.bind, eq_comm]

end Operation

/-- A held access token never lacks an expiry. -/
theorem Session.Attainable.expiry {s : Session} (h : s.Attainable) {token : String}
    (ht : s.accessToken = some token) : ∃ e, s.expiresAt = some e := by
  have he : s.expiresAt.isSome := h.wellFormed.expiry.mp (by rw [ht]; rfl)
  exact Option.isSome_iff_exists.mp he

namespace Scene

variable (others : Others) (config : Config) {s : Scene}

theorem course_current_signedOff (ht : s.session.accessToken = none) :
    s.course others config .current = ⟨.ok (.standing .anonymous), [], [], s⟩ := by
  have hw : Operation.current.Wanting s.session := (Operation.wanting_access rfl).mpr ht
  rw [course_of_wanting others config hw]
  rfl

theorem course_current_signedOn (h : s.session.Attainable) {token : String}
    (ht : s.session.accessToken = some token) :
    let c := s.course others config .current
    c.tries ≠ [] ∧ (∀ t ∈ c.tries, t.request = Operation.userinfo config token) ∧
      ∀ a, c.result = .ok a ↔ ∃ user, c.Yields Profile.reader user ∧
        a = .standing ⟨true, some user, s.session.expiresAt⟩ := by
  intro c
  have hw : ¬ Operation.current.Wanting s.session := by
    rw [Operation.wanting_access rfl, ht]
    simp
  obtain ⟨hfair, _, t, hlast, hresult, _⟩ := course_of_sent others config hw
  have hmem : t ∈ c.tries := List.mem_of_getLast? hlast
  refine ⟨List.ne_nil_of_mem hmem, ?_, ?_⟩
  · intro u hu
    rw [(hfair u hu).1]
    exact Operation.current_request config h ht
  · intro a
    rw [hresult, Operation.land_current]
    refine exists_congr fun user => and_congr_left fun _ => ?_
    exact (Course.yields_iff hlast (hfair t hmem).2).symm

end Scene

/-- **Who is signed on** is told by one look at the session, at the start. Without an access
token the answer is that nobody is; nothing is sent and nothing changes. With one, every
attempt asks for the user behind that token, and there is an answer exactly if the last of
them yields a user: that user is signed on until the expiry that belongs to the token,
even if others have replaced the token or taken it away since. So an answer that nobody
is signed on never comes of what the service says, and an answer that someone is always
says who and until when. The session is left as the others make it. -/
theorem introspection_exactly (others : Others) (config : Config) (s : Scene)
    (h : s.session.Attainable) :
    let c := s.course others config .current
    (s.session.accessToken = none →
      c.result = .ok (.standing ⟨false, none, none⟩) ∧ c.tries = [] ∧ c.after = s) ∧
    (∀ token, s.session.accessToken = some token →
      ∃ e, s.session.expiresAt = some e ∧ c.tries ≠ [] ∧
        (∀ t ∈ c.tries, t.request = Operation.userinfo config token) ∧
        ∀ a, c.result = .ok a ↔
          ∃ user, c.Yields Profile.reader user ∧ a = .standing ⟨true, some user, some e⟩) ∧
    c.result ≠ .error .signedOut ∧
    (∀ a, c.result = .ok a → ∃ standing, a = .standing standing ∧
      (standing.isAuthenticated ↔ s.session.accessToken ≠ none) ∧
      (standing.isAuthenticated ↔ standing.user ≠ none) ∧
      (standing.isAuthenticated ↔ standing.expiresAt ≠ none)) ∧
    c.after.traffic.requests = s.traffic.requests ++ answered c.tries ∧
    c.after.session = (s.happenAll c.events).session := by
  intro c
  refine ⟨?_, ?_, ?_, ?_, Scene.course_requests others config .current s, ?_⟩
  · intro ht
    have hc : c = _ := Scene.course_current_signedOff others config ht
    rw [hc]
    exact ⟨rfl, rfl, rfl⟩
  · intro token ht
    obtain ⟨e, he⟩ := h.expiry ht
    obtain ⟨htries, hrequests, hanswer⟩ := Scene.course_current_signedOn others config h ht
    rw [he] at hanswer
    exact ⟨e, he, htries, hrequests, hanswer⟩
  · exact mt (Course.verdict others config .current s).exact.1.mp id
  · intro a ha
    cases ht : s.session.accessToken with
    | none =>
      have hc : c = _ := Scene.course_current_signedOff others config ht
      rw [hc] at ha
      cases ha
      exact ⟨.anonymous, rfl, by simp [Standing.anonymous]⟩
    | some token =>
      obtain ⟨e, he⟩ := h.expiry ht
      obtain ⟨_, _, hanswer⟩ := Scene.course_current_signedOn others config h ht
      obtain ⟨user, _, rfl⟩ := (hanswer a).mp ha
      exact ⟨_, rfl, by simp [he]⟩
  · exact Scene.course_session others config .current s id

/-- A token is replaced before the second attempt and taken away during it; the answer
is about the one held at the start. -/
theorem introspection_exactly_replaced :
    let config : Config := { endpoint := "https://id.example", clientId := "app" }
    let service : Service := {
      reachable := true
      replies := [{ status := 503, meanwhile := [.write (.renew "b" 900)] },
        { body := Utf8.encode "\x7b\"id\":\"u\"\x7d", meanwhile := [.write .clear] }] }
    let s : Scene :=
      { session := Session.empty.write ⟨0, 0⟩ (.install ⟨"a", 60, none⟩), clock := ⟨0, 0⟩, service }
    let c := s.course (fun _ => []) config .current
    let user : Profile := ⟨"u", "", "", "", false, "", 0, 0⟩
    s.session.Attainable ∧ (∀ t ∈ c.tries, t.request = Operation.userinfo config "a") ∧
      c.result = .ok (.standing ⟨true, some user, some ⟨60, 0⟩⟩) ∧ c.Yields Profile.reader user ∧
      c.after.session = .empty := by
  intro config service s c user
  have h : s.session.Attainable := .write ⟨0, 0⟩ (.install ⟨"a", 60, none⟩) .empty
  have hresult : c.result = .ok (.standing ⟨true, some user, some ⟨60, 0⟩⟩) := by decide +kernel
  have hafter : c.after.session = .empty := by decide +kernel
  obtain ⟨_, hsignedOn, _⟩ := introspection_exactly (fun _ => []) config s h
  obtain ⟨e, _, _, hrequests, hanswer⟩ := hsignedOn "a" rfl
  obtain ⟨_, hyields, heq⟩ := (hanswer _).mp hresult
  cases heq
  exact ⟨h, hrequests, hresult, hyields, hafter⟩

end SignOn
