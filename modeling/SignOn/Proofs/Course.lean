import SignOn.Proofs.Landing
import SignOn.Proofs.Loop
import SignOn.Proofs.Surroundings

/-!
The course of one operation while others act on its session: writes and the
passing of time before its first attempt, after every attempt, and between a
request and its reply. Every attempt is kept on record.

* `Watch.run_sound`: the record of the attempts is a true one;
* `Scene.course_of_sent`: an operation whose token is there makes attempts, all
  with one request, and lands with what the last of them yields; the session is
  what the others make of it, with the write of the landing on top;
* `Scene.course_untried`, `Scene.course_tried`: when there are attempts;
* `Scene.course_request`: which attempts there are;
* `Scene.course_lockstep`: two courses in related scenes;
* `Scene.course_nobody`: with no others this is `Scene.perform`.
-/

namespace SignOn

/-- What others do while an operation is under way: before the attempt with the
index `k`, or before the landing if `k` attempts were made. -/
abbrev Others := Nat → List Event

/-- An attempt as it went: what others did before it, its request, the reply of
the service if the request got there, what the library made of that reply, the
requests that it sent on for it, and how the attempt ended. -/
structure Try where
  before : List Event
  request : Request
  raw : Option Reply
  reply : Option Reply
  sent : List Request
  outcome : Outcome

/-- Surroundings with the attempts made in them so far. -/
structure Watch where
  scene : Scene
  tries : List Try := []

/-- The whole course of an operation. -/
structure Course where
  result : Result
  tries : List Try
  later : List Event
  after : Scene

/-- All that happened until the reply. -/
def Try.events (t : Try) : List Event := t.before ++ (t.reply.map (·.meanwhile)).getD []

/-- All that others did in the course of an operation. -/
def Course.events (c : Course) : List Event := c.tries.flatMap Try.events ++ c.later

/-- The last attempt, if there was one. -/
def Course.last? (c : Course) : Option Try := c.tries.getLast?

/-- The reply to a request that gets to the service, as it is handed over. -/
def Service.reply? (s : Service) (q : Request) : Option Reply :=
  if s.receives q then some (s.answer q).reply else none

/-- An attempt as it goes on record. -/
def Scene.trial (before : List Event) (q : Request) (s : Scene) : Try where
  before := before
  request := q
  raw := if s.service.receives q then some s.service.next.1 else none
  reply := s.service.reply? q
  sent := s.service.sentOn q
  outcome := (s.attempt q).1

/-- An attempt among others, kept on record. -/
def Watch.attempt (others : Others) (q : Request) (w : Watch) : Outcome × Watch :=
  let before := others w.tries.length
  let scene := w.scene.happenAll before
  ((scene.attempt q).1,
    { scene := (scene.attempt q).2, tries := w.tries ++ [scene.trial before q] })

/-- A whole operation among others. Without an attempt it is over at once, unless
it has something to write. -/
def Scene.course (others : Others) (config : Config) (op : Operation) (s : Scene) : Course :=
  match op.start config s.session with
  | .landed result write =>
    let later := if write.isSome then others 0 else []
    { result, tries := [], later, after := (s.happenAll later).landing write }
  | .waiting flight =>
    let (notices, outcome, w) := flight.call.run (Watch.attempt others) { scene := s }
    let (result, write) := flight.land outcome
    let later := others w.tries.length
    { result
      tries := w.tries
      later
      after := ((w.scene.happenAll later).announce notices).landing write }

/-! ## Attempts on record -/

/-- The outcome is what the reply makes it; without a reply the network failed. -/
def Try.Fair (t : Try) : Prop :=
  match t.reply with
  | some r => t.outcome = t.request.outcome r
  | none => ∃ b, t.outcome = .error (.network b)

theorem Scene.trial_fair (before : List Event) (q : Request) (s : Scene) :
    (s.trial before q).Fair := by
  by_cases h : s.service.receives q
  · simp [Try.Fair, trial, Service.reply?, h, attempt_received h]
  · simp [Try.Fair, trial, Service.reply?, h, attempt_unreceived h]

/-- The surroundings change by what happened until the reply; apart from that
the session and the clock stay. -/
theorem Scene.attempt_happened (q : Request) (s : Scene) :
    let events := ((s.service.reply? q).map (·.meanwhile)).getD []
    (s.attempt q).2.session = (s.happenAll events).session ∧
      (s.attempt q).2.clock = (s.happenAll events).clock := by
  by_cases h : s.service.receives q
  · simp only [Service.reply?, h, if_true, attempt_received h]
    exact happenAll_congr (s := s.counted.received q) (t := s) rfl rfl _
  · simp only [Service.reply?, h, attempt_unreceived h]
    exact ⟨rfl, rfl⟩

/-- What the record says of the way from the surroundings at the start. -/
structure Watch.Sound (q : Request) (start : Scene) (w : Watch) : Prop where
  fair : ∀ t ∈ w.tries, t.request = q ∧ t.Fair
  session : w.scene.session = (start.happenAll (w.tries.flatMap Try.events)).session
  clock : w.scene.clock = (start.happenAll (w.tries.flatMap Try.events)).clock
  attempts : w.scene.traffic.attempts = start.traffic.attempts + w.tries.length

/-- One more attempt is put on record, and the record stays sound. -/
theorem Watch.attempt_sound (others : Others) {q : Request} {start : Scene} {w : Watch}
    (h : w.Sound q start) :
    (w.attempt others q).2.Sound q start ∧
      ∃ t, (w.attempt others q).2.tries = w.tries ++ [t] ∧
        t.outcome = (w.attempt others q).1 := by
  let before := others w.tries.length
  let scene := w.scene.happenAll before
  let t : Try := scene.trial before q
  have hw : w.attempt others q = (t.outcome, ⟨(scene.attempt q).2, w.tries ++ [t]⟩) := rfl
  obtain ⟨hs, hc⟩ := Scene.attempt_happened q scene
  obtain ⟨hs', hc'⟩ := Scene.happenAll_congr h.session h.clock t.events
  have he : (w.tries ++ [t]).flatMap Try.events = w.tries.flatMap Try.events ++ t.events := by
    simp
  have hbefore : w.scene.happenAll t.events =
      scene.happenAll ((t.reply.map (·.meanwhile)).getD []) :=
    Scene.happenAll_append _ _ _
  rw [hw]
  refine ⟨⟨?_, ?_, ?_, ?_⟩, t, rfl, rfl⟩
  · intro u hu
    rcases List.mem_append.mp hu with hu | hu
    · exact h.fair u hu
    · rw [List.mem_singleton.mp hu]
      exact ⟨rfl, Scene.trial_fair before q scene⟩
  · rw [he, Scene.happenAll_append, ← hs', hbefore]
    exact hs
  · rw [he, Scene.happenAll_append, ← hc', hbefore]
    exact hc
  · have ht : scene.traffic = w.scene.traffic := Scene.happenAll_traffic _ _
    rw [Scene.attempt_traffic, ht, h.attempts, List.length_append]
    rfl

/-- A whole loop leaves a sound record, and ends with its last attempt. -/
theorem Watch.run_sound (others : Others) (c : Call) (s : Scene) :
    let out := c.run (Watch.attempt others) { scene := s }
    out.2.2.Sound c.request s ∧ ∃ t, out.2.2.tries.getLast? = some t ∧ t.outcome = out.2.1 := by
  intro out
  have h0 : Watch.Sound c.request s { scene := s } :=
    ⟨fun t ht => absurd ht List.not_mem_nil, rfl, rfl, rfl⟩
  obtain ⟨w, hw, hrun⟩ := Call.run_last (Watch.attempt others) (c := c)
    (I := Watch.Sound c.request s) (s := { scene := s })
    (fun w hw => (Watch.attempt_sound others hw).1) h0
  obtain ⟨hsound, t, ht, ho⟩ := Watch.attempt_sound others hw
  have hout : out.2 = Watch.attempt others c.request w := hrun
  rw [hout]
  exact ⟨hsound, t, by rw [ht, List.getLast?_concat], ho⟩

/-! ## The start -/

namespace Operation

/-- The operation as it goes on its way. -/
def flight (config : Config) (op : Operation) (s : Session) : Flight where
  operation := op
  held := s
  call := { request := op.request config (op.token s), policy := config.policy }

theorem start_of_wanting (config : Config) {op : Operation} {s : Session} (h : op.Wanting s) :
    op.start config s = .landed op.withoutToken.1 op.withoutToken.2 := by
  obtain ⟨hu, ht⟩ := h
  unfold start
  split
  · next hn => exact absurd hn hu
  · next hn _ =>
    rw [ht] at hn
    cases hn
  · rfl

theorem start_of_not_wanting (config : Config) {op : Operation} {s : Session}
    (h : ¬ op.Wanting s) : op.start config s = .waiting (op.flight config s) := by
  unfold start
  split
  · rfl
  · rfl
  · next ht hu => exact absurd ⟨hu, ht⟩ h

end Operation

/-! ## The course -/

namespace Scene

variable (others : Others) (config : Config) {op : Operation} {s : Scene}

theorem landing_service (s : Scene) (write : Option Session.Write) :
    (s.landing write).service = s.service := by
  cases write <;> rfl

theorem landing_traffic (s : Scene) (write : Option Session.Write) :
    (s.landing write).traffic = s.traffic := by
  cases write <;> rfl

theorem landing_session {s t : Scene} (hs : s.session = t.session) (hc : s.clock = t.clock)
    (write : Option Session.Write) : (s.landing write).session = (t.landing write).session := by
  cases write with
  | none => exact hs
  | some w => rw [landing, landing, happen, happen, hs, hc]

/-- Without its token an operation lets others act only before it writes. -/
theorem course_of_wanting (h : op.Wanting s.session) :
    s.course others config op =
      let later := if op.withoutToken.2.isSome then others 0 else []
      ⟨op.withoutToken.1, [], later, (s.happenAll later).landing op.withoutToken.2⟩ := by
  unfold course
  rw [Operation.start_of_wanting config h]

theorem course_of_not_wanting (h : ¬ op.Wanting s.session) :
    s.course others config op =
      let out := (op.flight config s.session).call.run (Watch.attempt others) { scene := s }
      let later := others out.2.2.tries.length
      let landed := op.land s.session out.2.1
      { result := landed.1
        tries := out.2.2.tries
        later
        after := ((out.2.2.scene.happenAll later).announce out.1).landing landed.2 } := by
  unfold course
  rw [Operation.start_of_not_wanting config h]
  rfl

/-- **The course of an operation that is sent.** It makes at least one attempt,
all with one request, and lands with what the last one yields. The session is
what the others make of it, with the write of the landing on top. -/
theorem course_of_sent (h : ¬ op.Wanting s.session) :
    let c := s.course others config op
    (∀ t ∈ c.tries, t.request = op.request config (op.token s.session) ∧ t.Fair) ∧
      c.after.traffic.attempts = s.traffic.attempts + c.tries.length ∧
      ∃ t, c.last? = some t ∧ c.result = (op.land s.session t.outcome).1 ∧
        c.after.session =
          ((s.happenAll c.events).landing (op.land s.session t.outcome).2).session := by
  intro c
  have hc : c = _ := course_of_not_wanting _ config h
  let out := (op.flight config s.session).call.run (Watch.attempt others) { scene := s }
  obtain ⟨hsound, t, ht, ho⟩ := Watch.run_sound others (op.flight config s.session).call s
  rw [hc]
  refine ⟨hsound.fair, ?_, t, ht, by rw [ho], ?_⟩
  · rw [landing_traffic, announce, happenAll_traffic]
    exact hsound.attempts
  · rw [Course.events, happenAll_append, ho]
    let later := others out.2.2.tries.length
    obtain ⟨h1, h2⟩ := happenAll_congr hsound.session hsound.clock later
    exact landing_session (s := (out.2.2.scene.happenAll later).announce out.1) h1 h2 _

/-- Without its token an operation makes no attempt. -/
theorem course_untried (h : op.Wanting s.session) :
    (s.course others config op).tries = [] ∧
      (s.course others config op).after.traffic = s.traffic := by
  rw [course_of_wanting others config h, landing_traffic, happenAll_traffic]
  exact ⟨rfl, rfl⟩

theorem course_unused (h : op.Wanting s.session) :
    (s.course others config op).after.service = s.service := by
  rw [course_of_wanting others config h, landing_service, happenAll_service]

/-- With its token an operation makes attempts, all with one request. -/
theorem course_tried (h : ¬ op.Wanting s.session) :
    (s.course others config op).tries ≠ [] ∧ ∀ t ∈ (s.course others config op).tries,
      t.request = op.request config (op.token s.session) := by
  obtain ⟨hfair, _, t, ht, _⟩ := course_of_sent others config h
  exact ⟨List.ne_nil_of_mem (List.mem_of_getLast? ht), fun u hu => (hfair u hu).1⟩

/-- An attempt is only made with the token that the operation takes. -/
theorem course_request {t : Try} (ht : t ∈ (s.course others config op).tries) :
    ¬ op.Wanting s.session ∧ t.request = op.request config (op.token s.session) ∧ t.Fair := by
  by_cases hw : op.Wanting s.session
  · rw [(course_untried others config hw).1] at ht
    cases ht
  · exact ⟨hw, (course_of_sent others config hw).1 t ht⟩

/-- Every attempt is counted. -/
theorem course_attempts :
    (s.course others config op).after.traffic.attempts =
      s.traffic.attempts + (s.course others config op).tries.length := by
  by_cases hw : op.Wanting s.session
  · obtain ⟨htries, htraffic⟩ := course_untried others config hw
    rw [htries, htraffic]
    rfl
  · exact (course_of_sent others config hw).2.1

/-- **Two courses side by side.** Let scenes stay related when the others act,
when an attempt is made, which then has the same outcome in both, and when the
retries are announced. Then both courses end with one outcome, and each lands
with it in one of two related scenes. -/
theorem course_lockstep {others' : Others} {R : Scene → Scene → Prop} {s t : Scene}
    (hs : ¬ op.Wanting s.session) (ht : ¬ op.Wanting t.session)
    (happened : ∀ k u v, R u v → R (u.happenAll (others k)) (v.happenAll (others' k)))
    (attempted : ∀ u v, R u v →
      let first := u.attempt (op.request config (op.token s.session))
      let second := v.attempt (op.request config (op.token t.session))
      first.1 = second.1 ∧ R first.2 second.2)
    (announced : ∀ notices u v, R u v → R (u.announce notices) (v.announce notices))
    (h : R s t) :
    ∃ o u v, R u v ∧
      (s.course others config op).result = (op.land s.session o).1 ∧
      (t.course others' config op).result = (op.land t.session o).1 ∧
      (s.course others config op).after = u.landing (op.land s.session o).2 ∧
      (t.course others' config op).after = v.landing (op.land t.session o).2 := by
  have step : ∀ w w' : Watch, R w.scene w'.scene ∧ w.tries.length = w'.tries.length →
      let first := w.attempt others (op.flight config s.session).call.request
      let second := w'.attempt others' (op.flight config t.session).call.request
      first.1 = second.1 ∧
        R first.2.scene second.2.scene ∧ first.2.tries.length = second.2.tries.length := by
    rintro w w' ⟨hw, hn⟩
    have hb := happened w.tries.length w.scene w'.scene hw
    rw [hn] at hb
    obtain ⟨ho, ha⟩ := attempted _ _ hb
    simp only [Watch.attempt, List.length_append, hn]
    exact ⟨ho, ha, rfl⟩
  obtain ⟨h1, h2, h3, h4⟩ := Call.run_lockstep (Watch.attempt others) (Watch.attempt others')
    (R := fun w w' => R w.scene w'.scene ∧ w.tries.length = w'.tries.length)
    (c := (op.flight config s.session).call) (d := (op.flight config t.session).call)
    step rfl rfl (s := { scene := s }) (t := { scene := t }) ⟨h, rfl⟩
  rw [course_of_not_wanting others config hs, course_of_not_wanting others' config ht]
  refine ⟨_, _, _, ?_, rfl, by rw [h2], rfl, by rw [h2]⟩
  rw [h1, h4]
  exact announced _ _ _ (happened _ _ _ h3)

/-- With nobody about, the course of an operation is the whole of it. -/
theorem course_nobody (config : Config) (op : Operation) (s : Scene) :
    let c := s.course (fun _ => []) config op
    (c.result, c.after) = s.perform config op := by
  intro c
  by_cases h : op.Wanting s.session
  · have hc : c = _ := course_of_wanting _ config h
    rw [hc]
    unfold perform
    rw [Operation.start_of_wanting config h]
    simp only [ite_self]
    rfl
  · have hc : c = _ := course_of_not_wanting _ config h
    obtain ⟨h1, h2, h3⟩ := Call.run_lockstep (Watch.attempt fun _ => []) Scene.attempt
      (R := fun w t => w.scene = t)
      (c := (op.flight config s.session).call) (d := (op.flight config s.session).call)
      (fun w t hwt => by
        subst hwt
        exact ⟨rfl, rfl⟩) rfl rfl (s := { scene := s }) (t := s) rfl
    rw [hc]
    unfold perform
    rw [Operation.start_of_not_wanting config h]
    simp only [run, h1, h2, ← h3]
    rfl

end Scene

end SignOn
