import SignOn.Proofs.Redirects
import SignOn.Proofs.Script
import Mathlib.Data.List.Forall2

/-!
Time has no part in what is sent. Two runs of one script, from sessions with the
same tokens but any expiry, and with clocks that show any time at any moment,
look the same but for the expiry in the answers.

* `Session.SameTokens.write`: a write keeps tokens the same at any time;
* `Scene.happenAll_tokens`: of all that happens, only the writes matter to them;
* `Reply.SameButTime.pursue`: nor has it a part in what the library makes of a reply;
* `Scene.course_abreast`: one operation in two scenes;
* `Scene.timeless`: two runs of a script.
-/

namespace SignOn

/-! ## The same but for the time -/

/-- Sessions with the same tokens. -/
structure Session.SameTokens (a b : Session) : Prop where
  access : a.accessToken = b.accessToken
  refresh : a.refreshToken = b.refreshToken

/-- The writes among events. -/
def writes (events : List Event) : List Session.Write :=
  events.filterMap fun
    | .write w => some w
    | .setClock _ => none

/-- One response, with the same writes before it. -/
structure Response.SameButTime (r r' : Response) : Prop where
  status : r.status = r'.status
  headers : r.headers = r'.headers
  body : r.body = r'.body
  delivery : r.delivery = r'.delivery
  meanwhile : writes r.meanwhile = writes r'.meanwhile

structure Reply.SameButTime (r r' : Reply) : Prop where
  response : r.toResponse.SameButTime r'.toResponse
  beyond : List.Forall₂ Response.SameButTime r.beyond r'.beyond
  stray : r.stray = r'.stray

structure Service.SameButTime (v v' : Service) : Prop where
  reachable : v.reachable = v'.reachable
  replies : List.Forall₂ Reply.SameButTime v.replies v'.replies
  library : v.library = v'.library

/-- Scripts with the same operations and writes. The clock may be set anywhere
in either of them. -/
inductive SameDeeds : List Deed → List Deed → Prop
  | nil : SameDeeds [] []
  | clockFirst {ds es : List Deed} (now : Instant) :
      SameDeeds ds es → SameDeeds (.event (.setClock now) :: ds) es
  | clockSecond {ds es : List Deed} (now : Instant) :
      SameDeeds ds es → SameDeeds ds (.event (.setClock now) :: es)
  | write {ds es : List Deed} (w : Session.Write) :
      SameDeeds ds es → SameDeeds (.event (.write w) :: ds) (.event (.write w) :: es)
  | operation {ds es : List Deed} {v v' : Service} {others others' : Others} (op : Operation) :
      v.SameButTime v' → (∀ k, writes (others k) = writes (others' k)) → SameDeeds ds es →
      SameDeeds (.operation op v others :: ds) (.operation op v' others' :: es)

/-- An answer without the expiry that it may report. -/
def Answer.sansExpiry : Answer → Answer
  | .standing s => .standing { s with expiresAt := none }
  | a => a

/-! ## Sessions and events -/

namespace Session.SameTokens

variable {a b c : Session}

theorem refl (a : Session) : a.SameTokens a := ⟨rfl, rfl⟩

theorem symm (h : a.SameTokens b) : b.SameTokens a := ⟨h.access.symm, h.refresh.symm⟩

theorem trans (h : a.SameTokens b) (h' : b.SameTokens c) : a.SameTokens c :=
  ⟨h.access.trans h'.access, h.refresh.trans h'.refresh⟩

/-- A write says which tokens there are, whatever the clock shows. -/
theorem write (h : a.SameTokens b) (now now' : Instant) (w : Session.Write) :
    (a.write now w).SameTokens (b.write now' w) := by
  cases w with
  | install grant => exact ⟨rfl, rfl⟩
  | renew token lifetime => exact ⟨rfl, h.refresh⟩
  | clear => exact ⟨rfl, rfl⟩

theorem isAuthenticated (h : a.SameTokens b) : a.isAuthenticated = b.isAuthenticated := by
  rw [Session.isAuthenticated, Session.isAuthenticated, h.access]

theorem token (h : a.SameTokens b) (op : Operation) : op.token a = op.token b := by
  unfold Operation.token
  cases op.tokenUse with
  | none => rfl
  | access => exact h.access
  | refresh => exact h.refresh

theorem wanting (h : a.SameTokens b) (op : Operation) : op.Wanting a ↔ op.Wanting b := by
  rw [Operation.Wanting, Operation.Wanting, h.token op]

end Session.SameTokens

namespace Scene

variable {s t : Scene}

/-- Of all that happens, the tokens depend on the writes alone. -/
theorem happenAll_writes (h : s.session.SameTokens t.session) (events : List Event) :
    (s.happenAll events).session.SameTokens
      (t.happenAll ((writes events).map Event.write)).session := by
  induction events generalizing s t with
  | nil => exact h
  | cons e events ih =>
    cases e with
    | write w =>
      exact ih (s := s.happen (.write w)) (t := t.happen (.write w)) (h.write s.clock t.clock w)
    | setClock now => exact ih (s := s.happen (.setClock now)) (t := t) h

theorem happenAll_tokens (h : s.session.SameTokens t.session) {events events' : List Event}
    (he : writes events = writes events') :
    (s.happenAll events).session.SameTokens (t.happenAll events').session := by
  have hs := happenAll_writes h events
  have ht := happenAll_writes (Session.SameTokens.refl t.session) events'
  rw [← he] at ht
  exact hs.trans ht.symm

end Scene

/-! ## Replies -/

theorem writes_append (before after : List Event) :
    writes (before ++ after) = writes before ++ writes after :=
  List.filterMap_append

theorem Response.SameButTime.refl (r : Response) : r.SameButTime r := ⟨rfl, rfl, rfl, rfl, rfl⟩

namespace Reply.SameButTime

variable {r r' : Reply} (q : Request)

/-- What comes of a request does not depend on the time before the reply. -/
theorem outcome (h : r.SameButTime r') : q.outcome r = q.outcome r' := by
  obtain ⟨⟨status, headers, body, delivery, meanwhile⟩, beyond, stray⟩ := r
  obtain ⟨⟨status', headers', body', delivery', meanwhile'⟩, beyond', stray'⟩ := r'
  obtain ⟨⟨hstatus, hheaders, hbody, hdelivery, _⟩, _, hstray⟩ := h
  dsimp only at hstatus hheaders hbody hdelivery hstray
  subst hstatus hheaders hbody hdelivery hstray
  rfl

theorem onward (h : r.SameButTime r') : (r.onward q).SameButTime (r'.onward q) := by
  obtain ⟨response, beyond, stray⟩ := r
  obtain ⟨response', beyond', stray'⟩ := r'
  obtain ⟨_, hbeyond, _⟩ := h
  cases hbeyond with
  | nil => exact ⟨.refl _, .nil, rfl⟩
  | cons hnext hrest => exact ⟨hnext, hrest, rfl⟩

theorem endless (h : r.SameButTime r') : (r.endless q).SameButTime (r'.endless q) :=
  ⟨⟨rfl, rfl, rfl, rfl, h.response.meanwhile⟩, .nil, rfl⟩

theorem after (h : r.SameButTime r') {before before' : List Event}
    (hb : writes before = writes before') : (r.after before).SameButTime (r'.after before') := by
  refine ⟨{ h.response with meanwhile := ?_ }, h.beyond, h.stray⟩
  rw [Reply.after, Reply.after, writes_append, writes_append, hb, h.response.meanwhile]

theorem redirect? (h : r.SameButTime r') (l : Library) :
    l.redirect? q r.toResponse = l.redirect? q r'.toResponse := by
  rw [Library.redirect?, Library.redirect?, h.response.status, h.response.headers,
    h.response.delivery]

/-- The library follows redirects whatever the time. -/
theorem pursue (h : r.SameButTime r') (l : Library) (left : Nat) :
    (l.pursue left q r).reply.SameButTime (l.pursue left q r').reply ∧
      (l.pursue left q r).sent = (l.pursue left q r').sent := by
  induction left generalizing q r r' with
  | zero =>
    cases hr : l.redirect? q r.toResponse with
    | none =>
      rw [Library.pursue_of_final hr, Library.pursue_of_final ((h.redirect? q l).symm.trans hr)]
      exact ⟨h, rfl⟩
    | some p =>
      rw [Library.pursue_endless hr, Library.pursue_endless ((h.redirect? q l).symm.trans hr)]
      exact ⟨h.endless q, rfl⟩
  | succ left ih =>
    cases hr : l.redirect? q r.toResponse with
    | none =>
      rw [Library.pursue_of_final hr, Library.pursue_of_final ((h.redirect? q l).symm.trans hr)]
      exact ⟨h, rfl⟩
    | some p =>
      obtain ⟨hreply, hsent⟩ := ih p (h.onward p)
      rw [Library.pursue_of_redirect hr,
        Library.pursue_of_redirect ((h.redirect? q l).symm.trans hr), hsent]
      exact ⟨hreply.after h.response.meanwhile, rfl⟩

end Reply.SameButTime

namespace Service.SameButTime

variable {v v' : Service}

theorem receives (h : v.SameButTime v') (q : Request) : v.receives q = v'.receives q := by
  rw [Service.receives, Service.receives, h.reachable, h.library]

theorem next (h : v.SameButTime v') :
    v.next.1.SameButTime v'.next.1 ∧ v.next.2.SameButTime v'.next.2 := by
  obtain ⟨reachable, replies, library⟩ := v
  obtain ⟨reachable', replies', library'⟩ := v'
  obtain ⟨hreach, hreplies, hlibrary⟩ := h
  cases hreplies with
  | nil => exact ⟨⟨.refl _, .nil, rfl⟩, hreach, .nil, hlibrary⟩
  | cons hr hrest => exact ⟨hr, hreach, hrest, hlibrary⟩

theorem answer (h : v.SameButTime v') (q : Request) :
    (v.answer q).reply.SameButTime (v'.answer q).reply ∧
      (v.answer q).sent = (v'.answer q).sent := by
  rw [Service.answer, Service.answer, h.library]
  exact h.next.1.pursue q v'.library v'.library.redirects

end Service.SameButTime

/-! ## One operation in two scenes -/

/-- A landing looks at the session held only for the expiry that it reports. -/
theorem Operation.land_timeless (op : Operation) (a b : Session) (o : Outcome) :
    (op.land a o).1.map Answer.sansExpiry = (op.land b o).1.map Answer.sansExpiry ∧
      (op.land a o).2 = (op.land b o).2 := by
  cases op with
  | current =>
    cases o with
    | error e => exact ⟨rfl, rfl⟩
    | ok body =>
      simp only [land, succeed, decodeAs]
      cases Json.decode Profile.reader body with
      | ok user => exact ⟨rfl, rfl⟩
      | error e => exact ⟨rfl, rfl⟩
  | _ => cases o <;> exact ⟨rfl, rfl⟩

namespace Scene

/-- Two scenes in the course of one operation, the same but for the time. -/
structure Abreast (s t : Scene) : Prop where
  tokens : s.session.SameTokens t.session
  service : s.service.SameButTime t.service
  traffic : s.traffic = t.traffic

variable {s t : Scene}

theorem Abreast.happenAll (h : Abreast s t) {events events' : List Event}
    (he : writes events = writes events') :
    Abreast (s.happenAll events) (t.happenAll events') := by
  refine ⟨happenAll_tokens h.tokens he, ?_, ?_⟩
  · rw [happenAll_service, happenAll_service]
    exact h.service
  · rw [happenAll_traffic, happenAll_traffic]
    exact h.traffic

theorem Abreast.landing (h : Abreast s t) (write : Option Session.Write) :
    Abreast (s.landing write) (t.landing write) := by
  cases write with
  | none => exact h
  | some w => exact { h with tokens := h.tokens.write s.clock t.clock w }

theorem Abreast.announce (h : Abreast s t) (notices : List Notice) :
    Abreast (s.announce notices) (t.announce notices) :=
  { h with traffic := by rw [Scene.announce, Scene.announce, h.traffic] }

/-- One attempt in two scenes has one outcome. -/
theorem attempt_abreast (h : Abreast s t) (q : Request) :
    (s.attempt q).1 = (t.attempt q).1 ∧ Abreast (s.attempt q).2 (t.attempt q).2 := by
  have hreceives := h.service.receives q
  by_cases hr : s.service.receives q
  · obtain ⟨hreply, hsent⟩ := h.service.answer q
    rw [attempt_received hr, attempt_received (hreceives ▸ hr)]
    refine ⟨hreply.outcome q, Abreast.happenAll ?_ hreply.response.meanwhile⟩
    refine ⟨h.tokens, h.service.next.2, ?_⟩
    simp only [received, counted, h.traffic, hsent]
  · rw [attempt_unreceived hr, attempt_unreceived (hreceives ▸ hr), h.service.library]
    refine ⟨rfl, { h with traffic := ?_ }⟩
    simp only [counted, h.traffic]

/-- **One operation in two scenes.** Its results differ at most in the expiry
that they report, and it leaves scenes that are still the same but for the time. -/
theorem course_abreast {others others' : Others}
    (ho : ∀ k, writes (others k) = writes (others' k)) (config : Config) (op : Operation)
    (h : Abreast s t) :
    let c := s.course others config op
    let d := t.course others' config op
    c.result.map Answer.sansExpiry = d.result.map Answer.sansExpiry ∧ Abreast c.after d.after := by
  intro c d
  by_cases hs : op.Wanting s.session
  · have hc : c = _ := course_of_wanting others config hs
    have hd : d = _ := course_of_wanting others' config ((h.tokens.wanting op).mp hs)
    rw [hc, hd]
    refine ⟨rfl, Abreast.landing (h.happenAll ?_) _⟩
    split
    · exact ho 0
    · rfl
  · have ht : ¬ op.Wanting t.session := fun ht => hs ((h.tokens.wanting op).mpr ht)
    obtain ⟨o, u, v, huv, hcr, hdr, hca, hda⟩ := course_lockstep others config
      (R := Abreast) hs ht
      (fun k u v huv => huv.happenAll (ho k))
      (fun u v huv => by
        rw [h.tokens.token op]
        exact attempt_abreast huv _)
      (fun notices u v huv => huv.announce notices) h
    obtain ⟨hresult, hwrite⟩ := op.land_timeless s.session t.session o
    have hca' : c.after = u.landing (op.land t.session o).2 := by rw [← hwrite]; exact hca
    have hda' : d.after = v.landing (op.land t.session o).2 := hda
    have hcr' : c.result = (op.land s.session o).1 := hcr
    have hdr' : d.result = (op.land t.session o).1 := hdr
    rw [hcr', hdr', hca', hda']
    exact ⟨hresult, huv.landing _⟩

end Scene

/-! ## Two runs of a script -/

/-- What is to be seen at a step of a script: the operation, if it is one, and
the session after it. -/
structure View where
  sighting : Option Sighting
  after : Session

/-- What is to be seen of a script, at every operation and every write. -/
def Scene.views (config : Config) : List Deed → Scene → List View
  | [], _ => []
  | .event (.setClock now) :: rest, s => views config rest (s.happen (.setClock now))
  | .event (.write w) :: rest, s =>
    ⟨none, (s.happen (.write w)).session⟩ :: views config rest (s.happen (.write w))
  | .operation op service others :: rest, s =>
    let c := (s.facing service).course others config op
    ⟨some (c.seen op s.session), c.after.session⟩ :: views config rest c.after

/-- Sightings with the same traffic, the same replies left, and the same result
but for an expiry in it. -/
structure Sighting.SameButTime (x y : Sighting) : Prop where
  operation : x.operation = y.operation
  held : x.held.SameTokens y.held
  result : x.result.map Answer.sansExpiry = y.result.map Answer.sansExpiry
  traffic : x.traffic = y.traffic
  unused : List.Forall₂ Reply.SameButTime x.unused y.unused

structure View.SameButTime (x y : View) : Prop where
  sighting : Option.Rel Sighting.SameButTime x.sighting y.sighting
  tokens : x.after.SameTokens y.after
  authenticated : x.after.isAuthenticated = y.after.isAuthenticated

namespace Scene

variable {s t : Scene}

/-- **Time has no part in it.** Two runs of a script from sessions with the same
tokens look the same at every step, whatever the expiry of the tokens and
whatever the clocks show: the same requests, attempts and retries, the same
replies left, the same results but for the expiry that an answer reports, and
the same tokens in the session. -/
theorem timeless (config : Config) {deeds deeds' : List Deed} (hd : SameDeeds deeds deeds')
    (h : s.session.SameTokens t.session) :
    List.Forall₂ View.SameButTime (s.views config deeds) (t.views config deeds') := by
  induction hd generalizing s t with
  | nil => exact List.Forall₂.nil
  | clockFirst now _ ih => exact ih (s := s.happen (.setClock now)) h
  | clockSecond now _ ih => exact ih (t := t.happen (.setClock now)) h
  | write w _ ih =>
    have hw : (s.happen (.write w)).session.SameTokens (t.happen (.write w)).session :=
      h.write s.clock t.clock w
    exact List.Forall₂.cons ⟨.none, hw, hw.isAuthenticated⟩ (ih hw)
  | @operation _ _ v v' others others' op hv ho _ ih =>
    have h0 : Abreast (s.facing v) (t.facing v') := ⟨h, hv, rfl⟩
    obtain ⟨hresult, hafter⟩ := course_abreast ho config op h0
    have hseen : Sighting.SameButTime
        (((s.facing v).course others config op).seen op s.session)
        (((t.facing v').course others' config op).seen op t.session) :=
      ⟨rfl, h, hresult, hafter.traffic, hafter.service.replies⟩
    exact List.Forall₂.cons ⟨.some hseen, hafter.tokens, hafter.tokens.isAuthenticated⟩
      (ih hafter.tokens)

/-- A token that has run out in one run and lasts for ever in the other: its
profile is asked for in both, and it is renewed while the clocks run apart. -/
theorem timeless_expired :
    let config : Config := { endpoint := "https://id.example", clientId := "app" }
    let reply (now : Instant) : Reply := { status := 503, meanwhile := [.setClock now] }
    let service (now : Instant) : Service :=
      { reachable := true, replies := [reply now, { status := 204 }] }
    let deeds (now : Instant) : List Deed := [
      .operation .current (service now) fun _ => [.setClock now, .write (.renew "b" 0)],
      .event (.setClock now), .operation .refresh (service now) fun _ => []]
    let s : Scene := { session := ⟨some "a", some ⟨0, 0⟩, some "r"⟩, clock := ⟨60, 0⟩
                       service := service ⟨60, 0⟩ }
    let t : Scene := { session := ⟨some "a", some .greatest, some "r"⟩, clock := ⟨0, 0⟩
                       service := service ⟨0, 0⟩ }
    s.session.isExpired s.clock ∧ ¬ t.session.isExpired t.clock ∧
      s.session.SameTokens t.session ∧ SameDeeds (deeds ⟨60, 0⟩) (deeds ⟨0, 0⟩) ∧
      List.Forall₂ View.SameButTime
        (s.views config (deeds ⟨60, 0⟩)) (t.views config (deeds ⟨0, 0⟩)) := by
  intro config reply service deeds s t
  have hreply : (reply ⟨60, 0⟩).SameButTime (reply ⟨0, 0⟩) :=
    ⟨⟨rfl, rfl, rfl, rfl, rfl⟩, .nil, rfl⟩
  have hservice : (service ⟨60, 0⟩).SameButTime (service ⟨0, 0⟩) :=
    ⟨rfl, .cons hreply (.cons ⟨.refl _, .nil, rfl⟩ .nil), rfl⟩
  have hdeeds : SameDeeds (deeds ⟨60, 0⟩) (deeds ⟨0, 0⟩) :=
    .operation .current hservice (fun _ => rfl) <|
      .clockFirst _ <| .clockSecond _ <| .operation .refresh hservice (fun _ => rfl) .nil
  have htokens : s.session.SameTokens t.session := ⟨rfl, rfl⟩
  exact ⟨by decide, by decide, htokens, hdeeds, timeless config hdeeds htokens⟩

end Scene

end SignOn
