import SignOn.Proofs.Capture

/-!
What holds of every session that there can be, however it came about.

* `Session.WellFormed.write`: each write keeps it;
* `Scene.perform_attainable`, `Scene.performBoth_attainable`: operations leave
  sessions that there can be;
* `Fleet.follow_attainable`: so does everything that is done with clients;
* `session_wellFormed`: sessions of any number of clients, and a session with
  any number of operations under way on it.
-/

namespace SignOn

/-! ## Sessions -/

/-- No token is empty, and an access token and an expiry come only together.
What a session tells of itself agrees with the tokens in it. -/
structure Session.WellFormed (s : Session) : Prop where
  expiry : s.accessToken.isSome ↔ s.expiresAt.isSome
  access : s.accessToken ≠ some ""
  refresh : s.refreshToken ≠ some ""
  isAuthenticated : s.isAuthenticated ↔ s.accessToken.isSome
  isEmpty : s.isEmpty ↔ s.accessToken = none ∧ s.refreshToken = none
  isExpired : ∀ now, s.isExpired now → s.isAuthenticated

namespace Session

/-- Only the tokens and the expiry have to be looked at. -/
theorem WellFormed.of_tokens {s : Session} (he : s.accessToken.isSome ↔ s.expiresAt.isSome)
    (ha : s.accessToken ≠ some "") (hr : s.refreshToken ≠ some "") : s.WellFormed := by
  refine ⟨he, ha, hr, Iff.rfl, ?_, ?_⟩
  · cases hat : s.accessToken <;> cases het : s.expiresAt <;> simp_all [Session.isEmpty]
  · intro now hx
    unfold Session.isExpired at hx
    split at hx
    · next ht _ => simp [Session.isAuthenticated, ht]
    · cases hx

theorem wellFormed_empty : Session.empty.WellFormed := .of_tokens Iff.rfl nofun nofun

/-- **Every write keeps it**, whatever tokens it is given. -/
theorem WellFormed.write {s : Session} (h : s.WellFormed) (now : Instant) (w : Write) :
    (s.write now w).WellFormed := by
  cases w with
  | install grant =>
    refine .of_tokens (by simp [Session.write]) (nonEmpty?_ne_empty grant.accessToken) ?_
    cases hr : grant.refreshToken with
    | none => simp [Session.write, hr]
    | some token => simpa [Session.write, hr] using nonEmpty?_ne_empty token
  | renew token lifetime =>
    exact .of_tokens (by simp [Session.write]) (nonEmpty?_ne_empty token) h.refresh
  | clear => exact wellFormed_empty

theorem Attainable.wellFormed {s : Session} (h : s.Attainable) : s.WellFormed := by
  induction h with
  | empty => exact wellFormed_empty
  | write now w _ ih => exact ih.write now w

theorem attainable_seeded (now : Instant) (token : String) : (seeded now token).Attainable :=
  .write now _ .empty

end Session

/-! ## Operations under way -/

namespace Shared

theorem landing_attainable {s : Shared} (h : s.session.Attainable) (w : Option Session.Write) :
    (s.landing w).session.Attainable := by
  cases w with
  | none => exact h
  | some w => exact .write s.clock w h

theorem run_attainable {s : Shared} (h : s.session.Attainable) (moves : List Move) :
    (s.run moves).session.Attainable := by
  induction moves generalizing s with
  | nil => exact h
  | cons m moves ih =>
    apply ih
    rw [step_session]
    exact landing_attainable h _

end Shared

namespace Scene

variable {s : Scene}

theorem perform_attainable (h : s.session.Attainable) (config : Config) (op : Operation) :
    (s.perform config op).2.session.Attainable := by
  obtain ⟨moves, hm⟩ := perform_shared config op s
  have hrun := Shared.run_attainable (s := s.shared []) h moves
  rw [hm] at hrun
  exact hrun

theorem performBoth_attainable (h : s.session.Attainable) (config : Config)
    (first second : Operation) : (s.performBoth config first second).2.session.Attainable := by
  obtain ⟨moves, hm⟩ := performBoth_shared config first second s
  have hrun := Shared.run_attainable (s := s.shared []) h moves
  rw [hm] at hrun
  exact hrun

end Scene

/-! ## Clients -/

/-- What is done with clients: another one is set up, or something is done with
the client of the given number. -/
inductive Stride
  | construct (config : Config)
  | act (client : Nat) (action : Action) (service : Service)

namespace Fleet

/-- The clients afterwards. Unacceptable settings, and a client that there is
not, change nothing. -/
def follow (f : Fleet) : Stride → Fleet
  | .construct config =>
    match f.construct config with
    | .ok g => g
    | .error _ => f
  | .act client action service =>
    match f.act client action service with
    | some (_, g) => g
    | none => f

def followAll (f : Fleet) (strides : List Stride) : Fleet := strides.foldl follow f

/-- All sessions are sessions that there can be. -/
def Attainable (f : Fleet) : Prop := ∀ s ∈ f.sessions, s.Attainable

variable {f g : Fleet}

theorem initial_attainable (f : Fleet) (config : Config) : (f.initial config).Attainable := by
  unfold initial
  split
  · exact Session.attainable_seeded f.clock _
  · exact .empty

theorem construct_attainable (h : f.Attainable) {config : Config}
    (hg : f.construct config = .ok g) : g.Attainable := by
  unfold construct at hg
  split at hg
  · cases hg
  · cases hg
    intro s hs
    rcases List.mem_append.mp hs with hs | hs
    · exact h s hs
    · rw [List.mem_singleton.mp hs]
      exact f.initial_attainable config

theorem leave_attainable (h : f.Attainable) (c : Client) {scene : Scene}
    (hs : scene.session.Attainable) : (f.leave c scene).Attainable := by
  intro s hmem
  rcases List.mem_or_eq_of_mem_set hmem with hmem | rfl
  · exact h s hmem
  · exact hs

theorem act_attainable (h : f.Attainable) {client : Nat} {action : Action} {service : Service}
    {report : Report} (hg : f.act client action service = some (report, g)) : g.Attainable := by
  simp only [act, Option.bind_eq_bind, Option.bind_eq_some_iff] at hg
  obtain ⟨c, _, session, hsession, hg⟩ := hg
  have hs : (f.scene session service).session.Attainable :=
    h session (List.mem_of_getElem? hsession)
  cases action with
  | construct config =>
    simp only at hg
    split at hg
    · next hc =>
      cases hg
      exact construct_attainable h hc
    · cases hg
      exact h
  | perform op =>
    cases hg
    exact leave_attainable h c (Scene.perform_attainable hs c.config op)
  | performBoth first second =>
    cases hg
    exact leave_attainable h c (Scene.performBoth_attainable hs c.config first second)
  | event e =>
    cases hg
    exact leave_attainable h c (Scene.happenAll_attainable hs [e])
  | clone | look | isAuthenticated =>
    cases hg
    exact h

theorem follow_attainable (h : f.Attainable) (stride : Stride) : (f.follow stride).Attainable := by
  cases stride with
  | construct config =>
    simp only [follow]
    split
    · next hc => exact construct_attainable h hc
    · exact h
  | act client action service =>
    simp only [follow]
    split
    · next hc => exact act_attainable h hc
    · exact h

theorem followAll_attainable (h : f.Attainable) (strides : List Stride) :
    (f.followAll strides).Attainable := by
  induction strides generalizing f with
  | nil => exact h
  | cons stride strides ih => exact ih (follow_attainable h stride)

end Fleet

/-- **Sessions are well formed.** Whatever clients are set up, with whatever
token, and whatever is done with them under whatever replies, each of their
sessions is well formed; and so is, at every moment, a session on which any
number of operations are under way. -/
theorem session_wellFormed (clock : Instant) :
    (∀ strides : List Stride, ∀ s ∈ ((Fleet.mk clock [] []).followAll strides).sessions,
      s.WellFormed) ∧
    ∀ (config : Config) (moves : List Move),
      ((Shared.fresh clock config).run moves).session.WellFormed := by
  constructor
  · intro strides s hs
    have hall := Fleet.followAll_attainable (f := Fleet.mk clock [] []) nofun strides
    exact (hall s hs).wellFormed
  · intro config moves
    have hinit : (Shared.fresh clock config).session.Attainable :=
      Fleet.initial_attainable { clock } config
    exact (Shared.run_attainable hinit moves).wellFormed

/-- A client that starts with an empty token signs on, and its token is then
renewed by an empty one: the expiry goes, the refresh token stays. -/
theorem session_wellFormed_renewal :
    let config : Config :=
      { endpoint := "https://id.example", clientId := "app", accessToken := some "" }
    let grant (token : String) : Service :=
      let body := "\x7b\"accessToken\":\"" ++ token ++
        "\",\"expiresIn\":60,\"refreshToken\":\"r\"\x7d"
      { reachable := true, replies := [{ body := Utf8.encode body }] }
    let strides : List Stride := [.construct config,
      .act 0 (.perform (.login ⟨"u@x.com", "p", none⟩)) (grant "a"),
      .act 0 (.perform .refresh) (grant "")]
    let s : Session := ⟨none, none, some "r"⟩
    s ∈ ((Fleet.mk ⟨0, 0⟩ [] []).followAll strides).sessions ∧ s.WellFormed := by
  intro config grant strides s
  have hs : s ∈ ((Fleet.mk ⟨0, 0⟩ [] []).followAll strides).sessions := by decide +kernel
  exact ⟨hs, (session_wellFormed ⟨0, 0⟩).1 strides s hs⟩

end SignOn
