import SignOn.Proofs.Addresses
import SignOn.Proofs.Redirects
import SignOn.Proofs.Script

/-!
Credentials stay where they belong. Two runs of one script, from sessions that
differ only in their tokens, look the same but for the places where a token is
meant to be: the header of the operations that act for a person, and the body
of the one that renews the access token. What the library sends on has the token
of the request that it follows, or none.

* `Session.Alike`: sessions that differ only in their tokens;
* `Session.Alike.write`: a write keeps them so, or makes tokens equal;
* `Request.AgreeOnward.relay`: requests that agree are sent on alike;
* `Scene.course_paired`: one operation in two scenes;
* `Scene.credentials_confined`: two runs of a script;
* `Scene.credentials_elsewhere`: what else may stand in a header, and where else
  a token may go.
-/

namespace SignOn

/-! ## Sessions that differ only in their tokens -/

/-- A token that can be sent: it is there, and a header may hold it. -/
def Sendable (token : String) : Prop := token ≠ "" ∧ Header.isLegal token

/-- Two tokens: absent, equal, or both fit for their place. An empty token is
none. -/
inductive Twins (fit : String → Prop) : Option String → Option String → Prop
  | absent : Twins fit none none
  | same {t : String} : t ≠ "" → Twins fit (some t) (some t)
  | apart {t u : String} : fit t → fit u → Twins fit (some t) (some u)

theorem Twins.nonEmpty (fit : String → Prop) (t : String) :
    Twins fit (nonEmpty? t) (nonEmpty? t) := by
  unfold nonEmpty?
  split
  · exact .absent
  · next h =>
    apply Twins.same
    rintro rfl
    exact h rfl

theorem Twins.isNone {fit : String → Prop} {x y : Option String} (h : Twins fit x y) :
    x = none ↔ y = none := by
  cases h <;> simp

/-- Sessions that agree on the expiry and on which tokens there are. Access
tokens that differ can be sent, and refresh tokens are not empty. -/
structure Session.Alike (a b : Session) : Prop where
  expiry : a.expiresAt = b.expiresAt
  access : Twins Sendable a.accessToken b.accessToken
  refresh : Twins (· ≠ "") a.refreshToken b.refreshToken

namespace Session.Alike

variable {a b : Session}

theorem empty : Session.empty.Alike Session.empty := ⟨rfl, .absent, .absent⟩

/-- A write puts the same into both sessions; renewing leaves the refresh
tokens as they are. -/
theorem write (h : a.Alike b) (now : Instant) (w : Session.Write) :
    (a.write now w).Alike (b.write now w) := by
  cases w with
  | install grant =>
    refine ⟨rfl, Twins.nonEmpty _ _, ?_⟩
    cases hr : grant.refreshToken with
    | none => simpa [Session.write, hr] using Twins.absent
    | some r => simpa [Session.write, hr] using Twins.nonEmpty _ r
  | renew token lifetime => exact ⟨rfl, Twins.nonEmpty _ _, h.refresh⟩
  | clear => exact empty

theorem wanting (h : a.Alike b) (op : Operation) : op.Wanting a ↔ op.Wanting b := by
  unfold Operation.Wanting Operation.token
  cases op.tokenUse with
  | none => rfl
  | access => rw [h.access.isNone]
  | refresh => rw [h.refresh.isNone]

end Session.Alike

/-- A landing looks at the session held only for its expiry. -/
theorem Operation.land_congr {a b : Session} (h : a.expiresAt = b.expiresAt) (op : Operation)
    (o : Outcome) : op.land a o = op.land b o := by
  cases op with
  | current =>
    cases o with
    | error e => rfl
    | ok body => simp only [land, succeed, h]
  | _ => cases o <;> rfl

/-! ## Requests that differ only in their token -/

/-- The header that goes with an operation: the access token, if the operation
acts for a person. -/
def Operation.bearer (op : Operation) (held : Session) : Option String :=
  match op with
  | .login _ | .refresh | .enroll | .machineToken _ | .revokeMachine _ => none
  | _ => held.accessToken.map ("Bearer " ++ ·)

/-- The body of a renewal, which holds the refresh token. -/
def Session.renewal (held : Session) : Option String :=
  held.refreshToken.map fun token => (Json.object [("refreshToken", .text token)]).render

/-- Two requests of one operation that agree but for the tokens, each with those
of its own session. Any other credentials are those of the endpoint. -/
structure Request.Agree (config : Config) (op : Operation) (a b : Session) (p q : Request) :
    Prop where
  method : p.method = q.method
  url : p.url = q.url
  clientId : p.clientId = q.clientId
  body : match op with
    | .refresh => p.body = a.renewal ∧ q.body = b.renewal
    | _ => p.body = q.body
  bearer : p.authorization = op.bearer a ∧ q.authorization = op.bearer b
  credentials : p.credentials = config.credentials op.path ∧
    q.credentials = config.credentials op.path

/-- Two requests that were sent on for such requests, with the same of it in
both or without it in both. -/
structure Request.AgreeOnward (config : Config) (op : Operation) (a b : Session)
    (p q : Request) : Prop where
  method : p.method = q.method
  url : p.url = q.url
  clientId : p.clientId = q.clientId
  body : match op with
    | .refresh => p.body = a.renewal ∧ q.body = b.renewal ∨ p.body = none ∧ q.body = none
    | _ => p.body = q.body
  bearer : p.authorization = op.bearer a ∧ q.authorization = op.bearer b ∨
    p.authorization = none ∧ q.authorization = none
  credentials : p.credentials = config.credentials op.path ∧
      q.credentials = config.credentials op.path ∨
    p.credentials = none ∧ q.credentials = none

namespace Request

variable {config : Config} {op : Operation} {a b : Session} {p q : Request}

theorem Agree.onward (h : Agree config op a b p q) : AgreeOnward config op a b p q := by
  refine ⟨h.method, h.url, h.clientId, ?_, Or.inl h.bearer, Or.inl h.credentials⟩
  have hbody := h.body
  cases op with
  | refresh => exact Or.inl hbody
  | _ => exact hbody

/-- **Requests that agree are sent on alike**: the token goes along with both or
with neither. -/
theorem AgreeOnward.relay (h : AgreeOnward config op a b p q) (l : Library) (status : Status)
    (url : String) : AgreeOnward config op a b (l.relay p status url) (l.relay q status url) := by
  have hhost : l.sameHost p.url url = l.sameHost q.url url := by rw [h.url]
  have hbody := h.body
  refine ⟨?_, rfl, h.clientId, ?_, ?_, ?_⟩
  · rw [Library.relay, Library.relay, h.method]
  · by_cases hk : status.keepsBody
    · simp only [Library.relay, hk, if_true]
      exact hbody
    · cases op with
      | refresh => exact Or.inr ⟨by simp [Library.relay, hk], by simp [Library.relay, hk]⟩
      | _ => simp [Library.relay, hk]
  · simp only [Library.relay, hhost]
    split
    · exact h.bearer
    · exact Or.inr ⟨rfl, rfl⟩
  · simp only [Library.relay, hhost]
    split
    · exact h.credentials
    · exact Or.inr ⟨rfl, rfl⟩

end Request

theorem Header.isLegal_append (a b : String) :
    Header.isLegal (a ++ b) = (Header.isLegal a && Header.isLegal b) := by
  simp [Header.isLegal]

theorem Operation.bearer_eq (op : Operation) (held : Session) :
    op.bearer held =
      if op.tokenUse = .access then held.accessToken.map ("Bearer " ++ ·) else none := by
  cases op <;> rfl

namespace Twins

variable {fit : String → Prop} {x y : Option String}

/-- No token among twins is empty. -/
theorem filtered (h : Twins fit x y) (hf : ∀ t, fit t → t ≠ "") :
    x.bind nonEmpty? = x ∧ y.bind nonEmpty? = y := by
  cases h with
  | absent => exact ⟨rfl, rfl⟩
  | same ht => exact ⟨nonEmpty_of_ne ht, nonEmpty_of_ne ht⟩
  | apart ht hu => exact ⟨nonEmpty_of_ne (hf _ ht), nonEmpty_of_ne (hf _ hu)⟩

/-- Twins are legal in a header together, or not at all. -/
theorem legal (h : Twins Sendable x y) :
    (x.map ("Bearer " ++ ·)).all Header.isLegal = (y.map ("Bearer " ++ ·)).all Header.isLegal := by
  cases h with
  | absent => rfl
  | same _ => rfl
  | apart ht hu => simp [Header.isLegal_append, ht.2, hu.2]

end Twins

theorem Operation.request_bearer (config : Config) (op : Operation) {held : Session}
    (h : held.accessToken.bind nonEmpty? = held.accessToken) :
    (op.request config (op.token held)).authorization = op.bearer held := by
  rw [bearer_eq]
  by_cases hu : op.tokenUse = .access
  · simp [request, Config.request, token, hu, h]
  · simp [request, Config.request, hu]

theorem Operation.request_url (config : Config) (op : Operation) (token : Option String) :
    (op.request config token).url = Address.canonical (config.url op.path) := by
  rw [request, Config.request]

theorem Operation.request_credentials (config : Config) (op : Operation) (token : Option String) :
    (op.request config token).credentials = config.credentials op.path := by
  rw [request, Config.request]

theorem Session.request_renewal (config : Config) {held : Session}
    (h : ¬ Operation.refresh.Wanting held) :
    (Operation.refresh.request config (Operation.refresh.token held)).body = held.renewal := by
  cases hr : held.refreshToken with
  | none => exact absurd ⟨nofun, hr⟩ h
  | some token =>
    have ht : Operation.refresh.token held = some token := hr
    rw [ht, renewal, hr]
    rfl

/-- The requests of one operation from two sessions agree, and both can be
written down or neither. -/
theorem Session.Alike.requests {a b : Session} (h : a.Alike b) (config : Config) {op : Operation}
    (ha : ¬ op.Wanting a) (hb : ¬ op.Wanting b) :
    let p := op.request config (op.token a)
    let q := op.request config (op.token b)
    Request.Agree config op a b p q ∧ p.hasLegalHeaders = q.hasLegalHeaders := by
  intro p q
  obtain ⟨hx, hy⟩ := h.access.filtered fun t ht => ht.1
  have hp : p.authorization = op.bearer a := op.request_bearer config hx
  have hq : q.authorization = op.bearer b := op.request_bearer config hy
  have hcp : p.credentials = _ := op.request_credentials config (op.token a)
  have hcq : q.credentials = _ := op.request_credentials config (op.token b)
  refine ⟨⟨rfl, rfl, rfl, ?_, ⟨hp, hq⟩, ⟨hcp, hcq⟩⟩, ?_⟩
  · cases op with
    | refresh => exact ⟨request_renewal config ha, request_renewal config hb⟩
    | _ => rfl
  · rw [Request.hasLegalHeaders, Request.hasLegalHeaders, hp, hq, Operation.bearer_eq,
      Operation.bearer_eq]
    split
    · rw [h.access.legal]
      rfl
    · rfl

/-! ## One operation in two scenes -/

/-- Two sightings of one operation that agree but for the tokens in the requests. -/
structure Sighting.Agree (config : Config) (x y : Sighting) : Prop where
  operation : x.operation = y.operation
  held : x.held.Alike y.held
  result : x.result = y.result
  attempts : x.traffic.attempts = y.traffic.attempts
  notices : x.traffic.notices = y.traffic.notices
  requests : List.Forall₂ (Request.Agree config x.operation x.held y.held)
    x.traffic.requests y.traffic.requests
  onward : List.Forall₂ (Request.AgreeOnward config x.operation x.held y.held)
    x.traffic.onward y.traffic.onward
  unused : x.unused = y.unused

namespace Scene

/-- Two scenes in the course of one operation, their requests related one by one,
and those that were sent on as well. -/
structure Paired (R S : Request → Request → Prop) (s t : Scene) : Prop where
  session : s.session.Alike t.session
  clock : s.clock = t.clock
  service : s.service = t.service
  attempts : s.traffic.attempts = t.traffic.attempts
  notices : s.traffic.notices = t.traffic.notices
  requests : List.Forall₂ R s.traffic.requests t.traffic.requests
  onward : List.Forall₂ S s.traffic.onward t.traffic.onward

variable {R S : Request → Request → Prop} {p q : Request} {s t : Scene}

/-- An event in two scenes leaves their sessions alike. -/
theorem happen_alike (h : s.session.Alike t.session) (hc : s.clock = t.clock) (e : Event) :
    (s.happen e).session.Alike (t.happen e).session ∧ (s.happen e).clock = (t.happen e).clock := by
  cases e with
  | write w =>
    refine ⟨?_, hc⟩
    rw [happen, happen, hc]
    exact h.write t.clock w
  | setClock now => exact ⟨h, rfl⟩

theorem Paired.happen (h : Paired R S s t) (e : Event) : Paired R S (s.happen e) (t.happen e) := by
  obtain ⟨hs, hc⟩ := happen_alike h.session h.clock e
  cases e with
  | write w => exact { h with session := hs, clock := hc }
  | setClock now => exact { h with session := hs, clock := hc }

theorem Paired.happenAll (h : Paired R S s t) (events : List Event) :
    Paired R S (s.happenAll events) (t.happenAll events) := by
  induction events generalizing s t with
  | nil => exact h
  | cons e events ih => exact ih (h.happen e)

theorem Paired.landing (h : Paired R S s t) (write : Option Session.Write) :
    Paired R S (s.landing write) (t.landing write) := by
  cases write with
  | none => exact h
  | some w => exact h.happen (.write w)

theorem Paired.announce (h : Paired R S s t) (notices : List Notice) :
    Paired R S (s.announce notices) (t.announce notices) :=
  { h with notices := by rw [Scene.announce, Scene.announce, h.notices] }

/-- One attempt in two scenes has one outcome. -/
theorem attempt_paired (hR : R p q) (hS : S p q) (hurl : ∀ p q, S p q → p.url = q.url)
    (relay : ∀ (l : Library) p q status url, S p q →
      S (l.relay p status url) (l.relay q status url))
    (hl : p.hasLegalHeaders = q.hasLegalHeaders) (h : Paired R S s t) :
    (s.attempt p).1 = (t.attempt q).1 ∧ Paired R S (s.attempt p).2 (t.attempt q).2 := by
  have hu : p.url = q.url := hurl p q hS
  have hb : s.service.library.builds p = s.service.library.builds q := by
    rw [Library.builds, Library.builds, hl, hu]
  have hrec : t.service.receives q = s.service.receives p := by
    rw [Service.receives, Service.receives, ← h.service, hb]
  by_cases hr : s.service.receives p
  · obtain ⟨hreply, hsent⟩ : (s.service.answer p).reply = (t.service.answer q).reply ∧
        List.Forall₂ S (s.service.answer p).sent (t.service.answer q).sent := by
      rw [← h.service]
      exact Library.pursue_related hurl (relay _) hS
    rw [attempt_received hr, attempt_received (hrec.trans hr), hreply]
    refine ⟨by rw [Request.outcome, Request.outcome, hu], Paired.happenAll ?_ _⟩
    refine ⟨h.session, h.clock, ?_, congrArg (· + 1) h.attempts, h.notices, ?_, ?_⟩
    · rw [received, received, counted, counted, h.service]
    · exact List.rel_append h.requests (List.Forall₂.cons hR List.Forall₂.nil)
    · exact List.rel_append h.onward hsent
  · rw [attempt_unreceived hr, attempt_unreceived (hrec ▸ hr), Library.obstacle,
      Library.obstacle, ← h.service, hb, hu]
    exact ⟨rfl, { h with attempts := congrArg (· + 1) h.attempts }⟩

/-- **One operation in two scenes.** It has one result, and leaves scenes that
are still related. -/
theorem course_paired (others : Others) (config : Config) (op : Operation) (service : Service)
    (h : s.session.Alike t.session) (hc : s.clock = t.clock) :
    let c := (s.facing service).course others config op
    let d := (t.facing service).course others config op
    c.result = d.result ∧ Paired (Request.Agree config op s.session t.session)
      (Request.AgreeOnward config op s.session t.session) c.after d.after := by
  intro c d
  have h0 : Paired (Request.Agree config op s.session t.session)
      (Request.AgreeOnward config op s.session t.session) (s.facing service) (t.facing service) :=
    ⟨h, hc, rfl, rfl, rfl, List.Forall₂.nil, List.Forall₂.nil⟩
  by_cases hs : op.Wanting s.session
  · have hd : d = _ := course_of_wanting others config ((h.wanting op).mp hs)
    have hc : c = _ := course_of_wanting others config hs
    rw [hc, hd]
    exact ⟨rfl, (h0.happenAll _).landing _⟩
  · have ht : ¬ op.Wanting t.session := fun ht => hs ((h.wanting op).mpr ht)
    obtain ⟨hagree, hlegal⟩ := h.requests config hs ht
    obtain ⟨o, u, v, huv, hcr, hdr, hca, hda⟩ := course_lockstep others config
      (R := Paired (Request.Agree config op s.session t.session)
        (Request.AgreeOnward config op s.session t.session))
      (s := s.facing service) (t := t.facing service) hs ht
      (fun k u v huv => huv.happenAll (others k))
      (fun u v huv => attempt_paired hagree hagree.onward (fun _ _ h => h.url)
        (fun l _ _ status url h => h.relay l status url) hlegal huv)
      (fun notices u v huv => huv.announce notices) h0
    -- Both land with one outcome, and look only at the expiry, on which they agree.
    have hland : op.land s.session o = op.land t.session o := Operation.land_congr h.expiry op o
    refine ⟨hcr.trans ((congrArg Prod.fst hland).trans hdr.symm), ?_⟩
    have hca' : c.after = u.landing (op.land t.session o).2 := by rw [← hland]; exact hca
    have hda' : d.after = v.landing (op.land t.session o).2 := hda
    rw [hca', hda']
    exact huv.landing _

/-- **Credentials are confined.** Two runs of a script from sessions that differ
only in their tokens look the same, but for the access token in the headers and
the refresh token in the bodies of renewals. An endpoint without user information
puts no other credentials into the headers. -/
theorem credentials_confined (config : Config) (deeds : List Deed) (s t : Scene)
    (h : s.session.Alike t.session) (hc : s.clock = t.clock) :
    List.Forall₂ (Sighting.Agree config) (s.play config deeds) (t.play config deeds) ∧
      ('@' ∉ config.endpoint.toList → ∀ op : Operation, config.credentials op.path = none) := by
  refine ⟨?_, fun hplain => Config.credentials_of_plain hplain⟩
  induction deeds generalizing s t with
  | nil => exact List.Forall₂.nil
  | cons deed deeds ih =>
    cases deed with
    | event e =>
      obtain ⟨he, hce⟩ := happen_alike h hc e
      exact ih _ _ he hce
    | operation op service others =>
      obtain ⟨hresult, hafter⟩ := course_paired others config op service h hc
      refine List.Forall₂.cons ?_ (ih _ _ hafter.session hafter.clock)
      exact ⟨rfl, h, hresult, hafter.attempts, hafter.notices, hafter.requests, hafter.onward,
        congrArg Service.replies hafter.service⟩

/-- Two people renew their tokens, through an endpoint with user information, which
the service puts off once, and look at their profiles. -/
theorem credentials_confined_renewal :
    let config : Config := { endpoint := "https://user:pw@id.example", clientId := "app" }
    let service : Service :=
      { reachable := true, replies := [{ status := 503 }, { status := 204 }] }
    let deeds : List Deed := [.operation .refresh service fun _ => [.setClock ⟨60, 0⟩],
      .event (.write (.renew "later" 600)), .operation .profile service fun _ => []]
    let first : Session := ⟨some "a", some ⟨3600, 0⟩, some "b"⟩
    let second : Session := ⟨some "c", some ⟨3600, 0⟩, some "d"⟩
    let s : Scene := { session := first, clock := ⟨0, 0⟩, service }
    let t : Scene := { session := second, clock := ⟨0, 0⟩, service }
    s.session.Alike t.session ∧ s.clock = t.clock ∧
      List.Forall₂ (Sighting.Agree config) (s.play config deeds) (t.play config deeds) := by
  intro config service deeds first second s t
  have h : first.Alike second :=
    ⟨rfl, .apart ⟨by decide, by decide⟩ ⟨by decide, by decide⟩, .apart (by decide) (by decide)⟩
  exact ⟨h, rfl, (credentials_confined config deeds s t h rfl).1⟩

/-- Signing on through an endpoint with user information has a header for that;
and if the service redirects a renewal, the library takes the refresh token to
another address. -/
theorem credentials_elsewhere :
    let guarded : Config := { endpoint := "http://user:pw@id.example", clientId := "app" }
    let plain : Config := { endpoint := "http://id.example", clientId := "app" }
    let moved : Reply :=
      { status := 307, headers := [("Location", "http://other.example/")]
        beyond := [{ status := 204 }] }
    let service : Service := { reachable := true, replies := [moved] }
    let deeds (op : Operation) : List Deed := [.operation op service fun _ => []]
    let s (token : String) : Scene :=
      { session := ⟨none, none, some token⟩, clock := ⟨0, 0⟩, service }
    let login : Operation := .login ⟨"u@x.com", "p", none⟩
    guarded.check = .ok () ∧ plain.check = .ok () ∧ (s "b").session.Alike (s "d").session ∧
      ((s "b").play guarded (deeds login)).flatMap
          (·.traffic.requests.map Request.authorizations) = [["Basic dXNlcjpwdw=="]] ∧
      ((s "b").play plain (deeds .refresh)).flatMap
          (·.traffic.onward.map fun q => (q.url, q.body)) =
        [("http://other.example/", some "\x7b\"refreshToken\":\"b\"\x7d")] ∧
      ((s "d").play plain (deeds .refresh)).flatMap
          (·.traffic.onward.map fun q => (q.url, q.body)) =
        [("http://other.example/", some "\x7b\"refreshToken\":\"d\"\x7d")] := by
  intro guarded plain moved service deeds s login
  have hcheck : guarded.check = .ok () ∧ plain.check = .ok () := by decide +kernel
  have halike : (s "b").session.Alike (s "d").session :=
    ⟨rfl, .absent, .apart (by decide) (by decide)⟩
  refine ⟨hcheck.1, hcheck.2, halike, ?_⟩
  decide +kernel

end Scene

end SignOn
