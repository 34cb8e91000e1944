import SignOn.Proofs.SigningOff
import SignOn.Proofs.Unicode

/-!
What the headers of requests hold.

* `Header.isLegal_iff_clean`: which values can be sent, by their bytes;
* `UserInfo.basic_legal`: user information can always be sent;
* `Operation.legal_iff`: which requests can be written down;
* `Scene.course_received`, `Scene.course_unbuildable`: all attempts get to the
  service, or none;
* `headers_safe`: the whole account.
-/

namespace SignOn

/-! ## Values -/

namespace Header

/-- Of the bytes of the value none is a control but for tabs. -/
def Clean (value : String) : Prop := ∀ b ∈ Utf8.encode value, b = 0x09 ∨ 0x20 ≤ b ∧ b ≠ 0x7F

/-- A character is legal by its bytes. -/
theorem isLegalChar_iff {c : Char} :
    isLegalChar c ↔ ∀ b ∈ String.utf8EncodeChar c, b = 0x09 ∨ 0x20 ≤ b ∧ b ≠ 0x7F := by
  have htab : c = '\t' ↔ c.toNat = 9 := by
    constructor
    · rintro rfl
      rfl
    · intro h
      exact Char.toNat_inj.mp h
  have hbyte : ∀ b : UInt8, (b = 0x09 ∨ 0x20 ≤ b ∧ b ≠ 0x7F) ↔
      (b.toNat = 9 ∨ 0x20 ≤ b.toNat ∧ b.toNat ≠ 0x7F) := by
    intro b
    rw [UInt8.le_iff_toNat_le, ne_eq, ← UInt8.toNat_inj, ← UInt8.toNat_inj]
    rfl
  simp only [isLegalChar, Bool.or_eq_true, Bool.and_eq_true, decide_eq_true_eq, bne_iff_ne,
    beq_iff_eq, hbyte, htab]
  constructor
  · intro h b hb
    rcases Utf8.mem_utf8EncodeChar hb with ⟨heq, _⟩ | ⟨hb, _⟩
    · omega
    · omega
  · intro h
    by_cases hascii : c.toNat < 0x80
    · have hv : c.val.toNat = c.toNat := rfl
      have hmem : UInt8.ofNat c.toNat ∈ String.utf8EncodeChar c := by
        simp [String.utf8EncodeChar, hv, show c.toNat ≤ 0x7F by omega]
      have hc := h _ hmem
      rw [UInt8.toNat_ofNat'] at hc
      omega
    · omega

theorem isLegal_iff_clean (value : String) : isLegal value ↔ Clean value := by
  simp only [isLegal, List.all_eq_true, isLegalChar_iff, Clean, Utf8.encode, List.mem_flatMap]
  constructor
  · rintro h b ⟨c, hc, hb⟩
    exact h c hc b hb
  · intro h c hc b hb
    exact h b ⟨c, hc, hb⟩

end Header

namespace Base64

theorem sextet_legal (n : Nat) : Header.isLegalChar (sextet n) := by
  have hall : alphabet.all Header.isLegalChar := by decide
  unfold sextet
  cases h : alphabet[n % 64]? with
  | none => decide
  | some c => exact List.all_eq_true.mp hall c (List.mem_of_getElem? h)

theorem encode_legal (bytes : List UInt8) : (encode bytes).all Header.isLegalChar := by
  have hfiller : Header.isLegalChar filler := by decide
  fun_induction encode bytes with
  | case1 a b c rest n ih => simp [sextet_legal, ih]
  | case2 a b n => simp [sextet_legal, hfiller]
  | case3 a n => simp [sextet_legal, hfiller]
  | case4 => rfl

end Base64

theorem UserInfo.basic_legal (u : UserInfo) : Header.isLegal u.basic := by
  have hword : Header.isLegal "Basic " := by decide
  rw [basic, Header.isLegal_append, hword, Bool.true_and, Header.isLegal, String.toList_ofList]
  exact Base64.encode_legal _

/-! ## Requests -/

/-- What the settings are checked for covers the client id. -/
theorem Config.clientId_legal {config : Config} (h : config.check = .ok ()) :
    Header.isLegal config.clientId := by
  simp only [check] at h
  split at h
  · cases h
  · split at h
    · cases h
    · split at h
      · cases h
      · split at h
        · cases h
        · next hlegal => simpa using hlegal

namespace Operation

/-- The access token that the operation would send cannot stand in a header. -/
def Unsendable (op : Operation) (held : Session) : Prop :=
  op.tokenUse = .access ∧ ∃ token, held.accessToken = some token ∧ ¬ Header.Clean token

variable {config : Config} {op : Operation} {held : Session}

/-- Nothing but the access token can keep a request from being written down. -/
theorem legal_iff (h : config.check = .ok ()) :
    (op.request config (op.token held)).hasLegalHeaders ↔ ¬ op.Unsendable held := by
  have hclient := Config.clientId_legal h
  by_cases hu : op.tokenUse = .access
  · have htoken : op.token held = held.accessToken := by rw [token, hu]
    cases ha : held.accessToken with
    | none =>
      rw [htoken, ha]
      simp [Request.hasLegalHeaders, request, Config.request, hu, hclient, Unsendable, ha]
    | some token =>
      rw [htoken, ha, request_legal config hu]
      simp [hclient, Unsendable, hu, ha, Header.isLegal_iff_clean]
  · simp [Request.hasLegalHeaders, request, Config.request, hu, hclient, Unsendable]

/-- Without its token an operation does not send one that cannot be sent. -/
theorem Unsendable.not_wanting (h : op.Unsendable held) : ¬ op.Wanting held := by
  obtain ⟨hu, token, ht, _⟩ := h
  simp [wanting_access hu, ht]

theorem heeds_of_not_signsOff (h : ¬ op.SignsOff) : op.Heeds := by
  cases op with
  | logout | revoke => exact absurd trivial h
  | _ => exact trivial

end Operation

/-- What is written down holds no control. -/
theorem Operation.request_clean {config : Config} {op : Operation} {token : Option String}
    (h : (op.request config token).hasLegalHeaders) :
    Header.Clean config.clientId ∧
      ∀ value ∈ (op.request config token).authorizations, Header.Clean value := by
  simp only [Request.hasLegalHeaders, Bool.and_eq_true, Option.all_eq_true] at h
  simp only [← Header.isLegal_iff_clean]
  refine ⟨h.1, ?_⟩
  intro value hv
  rw [Request.authorizations, List.mem_append, Option.mem_toList, Option.mem_toList,
    request_credentials] at hv
  rcases hv with hv | hv
  · obtain ⟨u, _, rfl⟩ := Option.map_eq_some_iff.mp hv
    exact u.basic_legal
  · exact h.2 value hv

/-- A reply does not come to a request that could not be written down. -/
theorem Request.outcome_ne_unbuildable (q : Request) (r : Reply) :
    q.outcome r ≠ .error (.network .unbuildable) := by
  have hstray : r.stray.elim (.noAnswer q.url) Stray.breakdown ≠ .unbuildable := by
    cases r.stray with
    | none => simp
    | some stray => cases stray <;> simp [Stray.breakdown]
  unfold outcome Reply.refusal
  repeat' split
  all_goals simp [hstray]

/-! ## Loops -/

namespace Watch

variable (others : Others) (q : Request) {policy : RetryPolicy} {s : Scene}

theorem tried_unbuildable (k : Nat) :
    ((stage others q s k).tried others q).outcome = .error (.network .unbuildable) ↔
      ¬ s.service.library.builds q := by
  let scene := (stage others q s k).upcoming others
  obtain ⟨_, hlibrary, _⟩ := upcoming_next others q s k
  rw [← hlibrary]
  show (scene.attempt q).1 = _ ↔ ¬ scene.service.library.builds q
  by_cases h : scene.service.receives q
  · have hbuild : scene.service.library.builds q := (Bool.and_eq_true_iff.mp h).1
    rw [Scene.attempt_received h]
    simp [hbuild, q.outcome_ne_unbuildable]
  · rw [Scene.attempt_unreceived h, Library.obstacle]
    by_cases hbuild : scene.service.library.builds q
    · simp [hbuild]
    · simp [hbuild]

/-- A request that cannot be written down is tried as often as may be. -/
theorem record_unbuildable (policy : RetryPolicy) (s : Scene)
    (h : ¬ s.service.library.builds q) :
    (record others q policy s).length = policy.limit.toNat + 1 ∧
      ∀ t ∈ record others q policy s, t.outcome = .error (.network .unbuildable) := by
  have hall : ∀ k, ((stage others q s k).tried others q).outcome =
      .error (.network .unbuildable) := fun k => (tried_unbuildable others q k).mpr h
  obtain ⟨n, ⟨hstop, _⟩, hrec⟩ := run_tries others q policy s
  constructor
  · rcases hstop with hn | hn
    · simp [hrec, hn]
    · exact absurd (by rw [hall]; rfl) hn
  · intro t ht
    obtain ⟨k, rfl⟩ := mem_record others q ht
    exact hall k

end Watch

/-! ## Operations -/

/-- All requests of a course, those that the library sends on among them. -/
def Course.requests (c : Course) : List Request := answered c.tries ++ c.tries.flatMap Try.sent

namespace Scene

variable (others : Others) (config : Config) {op : Operation} {s : Scene}

/-- What the service receives in a course is the one request of the operation,
which could be built. -/
theorem mem_answered {q : Request} (h : q ∈ answered (s.course others config op).tries) :
    q = op.request config (op.token s.session) ∧ s.service.library.builds q := by
  by_cases hw : op.Wanting s.session
  · rw [(course_untried others config hw).1] at h
    cases h
  · rw [course_record others config hw, Watch.answered_record] at h
    split at h
    · next hr =>
      obtain rfl := List.eq_of_mem_replicate h
      exact ⟨rfl, (Bool.and_eq_true_iff.mp hr).1⟩
    · cases h

/-- All requests of a course come of the one request of the operation. -/
theorem mem_requests {q : Request} (h : q ∈ (s.course others config op).requests) :
    (op.request config (op.token s.session)).Relayed q ∧
      s.service.library.builds (op.request config (op.token s.session)) := by
  rcases List.mem_append.mp h with h | h
  · obtain ⟨rfl, hb⟩ := mem_answered others config h
    exact ⟨.refl _, hb⟩
  · obtain ⟨t, ht, hq⟩ := List.mem_flatMap.mp h
    obtain ⟨k, rfl⟩ := course_staged others config ht
    let p := op.request config (op.token s.session)
    obtain ⟨hrelayed, hfollowed⟩ := Watch.tried_sent others p s k
    -- what is sent on comes from the service, so the request got there
    have hmem : p ∈ answered (s.course others config op).tries :=
      List.mem_map_of_mem (List.mem_filter.mpr ⟨ht, (hfollowed (List.ne_nil_of_mem hq)).1⟩)
    exact ⟨hrelayed q hq, (mem_answered others config hmem).2⟩

/-- All attempts get to a service that can be reached, if the request can be
built. -/
theorem course_received
    (hb : s.service.library.builds (op.request config (op.token s.session)))
    (hr : s.service.reachable) :
    answered (s.course others config op).tries =
      (s.course others config op).tries.map Try.request := by
  by_cases hw : op.Wanting s.session
  · rw [(course_untried others config hw).1]
    rfl
  · have hreceives : s.service.receives (op.request config (op.token s.session)) := by
      simp [Service.receives, hb, hr]
    have hrequests := (course_tried others config hw).2
    rw [← List.map_eq_replicate_iff] at hrequests
    rw [hrequests, course_record others config hw, Watch.answered_record, if_pos hreceives]

theorem course_built
    (hb : s.service.library.builds (op.request config (op.token s.session))) :
    ∀ t ∈ (s.course others config op).tries, t.outcome ≠ .error (.network .unbuildable) := by
  intro t ht
  obtain ⟨k, rfl⟩ := course_staged others config ht
  exact fun h => (Watch.tried_unbuildable others _ k).mp h hb

/-- A request that cannot be built is not sent, however often it is tried. -/
theorem course_unbuildable (hw : ¬ op.Wanting s.session)
    (hb : ¬ s.service.library.builds (op.request config (op.token s.session))) :
    let c := s.course others config op
    (c.requests = [] ∧ c.after.service = s.service) ∧
      c.tries.length = config.maxRetries.toNat + 1 ∧
      (∀ t ∈ c.tries, t.outcome = .error (.network .unbuildable)) ∧
      (op.Heeds → c.result = .error (.sending (.network .unbuildable))) := by
  intro c
  have hreceives : ¬ s.service.receives (op.request config (op.token s.session)) := by
    simp [Service.receives, hb]
  have hrecord : c.tries = _ := course_record others config hw
  obtain ⟨hlength, houtcome⟩ := Watch.record_unbuildable others _ config.policy s hb
  rw [← hrecord] at hlength houtcome
  refine ⟨⟨?_, ?_⟩, hlength, houtcome, ?_⟩
  · rw [List.eq_nil_iff_forall_not_mem]
    exact fun q hq => hb (mem_requests others config hq).2
  · refine (course_service others config hw).trans ?_
    rw [share, if_neg hreceives, List.drop_zero]
  · intro hh
    obtain ⟨_, _, t, ht, hresult, _⟩ := course_of_sent others config hw
    rw [houtcome t (List.mem_of_getLast? ht), Operation.land_failed hh] at hresult
    exact hresult

end Scene

/-- What the headers of a course are. -/
structure Course.SafeHeaders (config : Config) (start : Scene) (op : Operation) (c : Course) :
    Prop where
  requests : c.after.traffic.requests = start.traffic.requests ++ answered c.tries ∧
    c.after.traffic.onward = start.traffic.onward ++ c.tries.flatMap Try.sent
  attempts : c.after.traffic.attempts = start.traffic.attempts + c.tries.length
  clientId : ∀ q ∈ c.requests, q.clientId = config.clientId ∧ Header.Clean q.clientId
  authorization : ∀ q ∈ c.requests, ∀ value ∈ q.authorizations, Header.Clean value
  unsent : op.Unsendable start.session → c.requests = [] ∧ c.after.service = start.service
  tried : op.Unsendable start.session → c.tries.length = config.maxRetries.toNat + 1 ∧
    ∀ t ∈ c.tries, t.outcome = .error (.network .unbuildable) ∧ mayPass t.outcome
  failed : op.Unsendable start.session → ¬ op.SignsOff →
    c.result = .error (.sending (.network .unbuildable))
  cleared : op.Unsendable start.session → op.SignsOff →
    c.result = .ok .done ∧ c.after.session = .empty
  received : ¬ op.Unsendable start.session →
    start.service.library.reads (Address.canonical (config.url op.path)) →
    start.service.reachable → answered c.tries = c.tries.map Try.request
  built : ¬ op.Unsendable start.session →
    start.service.library.reads (Address.canonical (config.url op.path)) →
    ∀ t ∈ c.tries, t.outcome ≠ .error (.network .unbuildable)
  sendable : op.tokenUse ≠ .access → ¬ op.Unsendable start.session

/-- **Headers are safe.** Under accepted settings each request that the service
receives, or the library sends on from there, has their client id, and no header
of it holds a control other than a tab. An access token with such a byte keeps an
operation from the service: then no request gets there and no reply is used,
every attempt that may be made is made and fails for the network, and so does the
operation, unless it is one that ends the session. If the address is one that the
library can read, as it can if the endpoint is plain and has a host, nothing else
does: in all other cases each attempt gets to a service that can be reached. The
operations that send no access token can always be sent there. -/
theorem headers_safe (others : Others) (config : Config) (op : Operation) (s : Scene)
    (h : config.check = .ok ()) : (s.course others config op).SafeHeaders config s op := by
  let q := op.request config (op.token s.session)
  have hlegal : q.hasLegalHeaders ↔ ¬ op.Unsendable s.session := Operation.legal_iff h
  have hclean : s.service.library.builds q → _ := fun hb =>
    Operation.request_clean (Bool.and_eq_true_iff.mp hb).2
  have hunbuilt : op.Unsendable s.session → _ := fun hu =>
    Scene.course_unbuildable others config hu.not_wanting
      fun hb => hlegal.mp (Bool.and_eq_true_iff.mp hb).2 hu
  have hbuilt : ¬ op.Unsendable s.session →
      s.service.library.reads (Address.canonical (config.url op.path)) →
      s.service.library.builds q := by
    intro hu hreads
    rw [Library.builds, hlegal.mpr hu, Operation.request_url, hreads]
    rfl
  refine ⟨Scene.course_traffic others config op s, Scene.course_attempts others config,
    ?_, ?_, ?_, ?_, ?_, ?_, ?_, ?_, ?_⟩
  · intro p hp
    obtain ⟨hrelayed, hb⟩ := Scene.mem_requests others config hp
    rw [hrelayed.clientId]
    exact ⟨rfl, (hclean hb).1⟩
  · intro p hp value hv
    obtain ⟨hrelayed, hb⟩ := Scene.mem_requests others config hp
    rcases hrelayed.authorizations with hsame | hnone
    · rw [hsame] at hv
      exact (hclean hb).2 value hv
    · rw [hnone] at hv
      cases hv
  · exact fun hu => (hunbuilt hu).1
  · intro hu
    obtain ⟨_, hlength, houtcome, _⟩ := hunbuilt hu
    refine ⟨hlength, ?_⟩
    intro t ht
    rw [houtcome t ht]
    exact ⟨rfl, rfl⟩
  · intro hu hs
    exact (hunbuilt hu).2.2.2 (Operation.heeds_of_not_signsOff hs)
  · intro hu hs
    obtain ⟨hresult, _, hcleared⟩ := Scene.course_signedOff others config hs (s := s)
    refine ⟨hresult, hcleared ?_⟩
    -- there is an access token, so there is something to end
    obtain ⟨_, token, ht, _⟩ := hu
    cases op with
    | revoke => simp [Operation.Spares, ht]
    | _ => exact id
  · intro hu hreads
    exact Scene.course_received others config (hbuilt hu hreads)
  · intro hu hreads
    exact Scene.course_built others config (hbuilt hu hreads)
  · intro huse hu
    exact huse hu.1

/-- The service issues an access token with a line break and a header in it; the
next step-up is not sent, and what is left of the session stays. -/
theorem headers_safe_injected :
    let config : Config := { endpoint := "http://id.example", clientId := "app", maxRetries := 2 }
    let s : Scene :=
      { session := ⟨some "a\r\nX-Client-ID: b", some ⟨60, 0⟩, none⟩, clock := ⟨0, 0⟩
        service := { reachable := true, replies := [{ status := 204 }] } }
    let op : Operation := .strengthen ⟨.sms, none⟩
    let c := s.course (fun _ => []) config op
    config.check = .ok () ∧ op.Unsendable s.session ∧ c.after.traffic.requests = [] ∧
      c.tries.length = 3 ∧ c.result = .error (.sending (.network .unbuildable)) := by
  intro config s op c
  have hcheck : config.check = .ok () := by decide +kernel
  have hu : op.Unsendable s.session := by
    refine ⟨rfl, _, rfl, ?_⟩
    rw [← Header.isLegal_iff_clean]
    decide
  have hsafe := headers_safe (fun _ => []) config op s hcheck
  refine ⟨hcheck, hu, ?_, (hsafe.tried hu).1, hsafe.failed hu id⟩
  rw [hsafe.requests.1, (List.append_eq_nil_iff.mp (hsafe.unsent hu).1).1]
  rfl

end SignOn
