import SignOn.Proofs.Course

/-!
How an operation fails, and when.

* `Try.Fair.outcome_eq_ok`: an attempt yields a body exactly if a success
  arrived whole;
* `Course.yields_iff`: what the last attempt yields;
* `error_taxonomy`: the four results of an operation, each with the exact
  condition for it, among others and under any replies.
-/

namespace SignOn

namespace Try.Fair

variable {t : Try}

theorem outcome_eq_ok (h : t.Fair) {body : List UInt8} :
    t.outcome = .ok body ↔ ∃ r, t.reply = some r ∧ r.IsWholeSuccess ∧ r.content = body := by
  unfold Fair at h
  cases hr : t.reply with
  | some r =>
    rw [hr] at h
    rw [h, Request.outcome_eq_ok]
    simp
  | none =>
    rw [hr] at h
    obtain ⟨b, hb⟩ := h
    simp [hb]

theorem outcome_ne_unencodable (h : t.Fair) : t.outcome ≠ .error .unencodable := by
  unfold Fair at h
  split at h
  · rw [h]
    unfold Request.outcome Reply.refusal
    repeat' split
    all_goals simp
  · obtain ⟨b, hb⟩ := h
    simp [hb]

end Try.Fair

/-- The last attempt of a course was a success that arrived whole, in which `r`
reads `a`. -/
def Course.Yields {α : Type} (c : Course) (r : Json.Reader α) (a : α) : Prop :=
  ∃ t reply, c.last? = some t ∧ t.reply = some reply ∧ reply.IsWholeSuccess ∧
    Json.decode r reply.content = .ok a

theorem Course.yields_iff {α : Type} {c : Course} {t : Try} (ht : c.last? = some t) (hf : t.Fair)
    {r : Json.Reader α} {a : α} :
    c.Yields r a ↔ ∃ body, t.outcome = .ok body ∧ Json.decode r body = .ok a := by
  simp only [Yields, ht, Option.some.injEq, hf.outcome_eq_ok]
  constructor
  · rintro ⟨_, reply, rfl, hr, hw, hd⟩
    exact ⟨reply.content, ⟨reply, hr, hw, rfl⟩, hd⟩
  · rintro ⟨_, ⟨reply, hr, hw, rfl⟩, hd⟩
    exact ⟨t, reply, rfl, hr, hw, hd⟩

/-- The last attempt of the operation failed, and that matters to it. -/
def Course.Failed (c : Course) (op : Operation) (e : SendFailure) : Prop :=
  op.Heeds ∧ ∃ t, c.last? = some t ∧ t.outcome = .error e

/-- The last attempt was a success that arrived whole, with a body that the
operation reads and cannot read. -/
def Course.Misread (c : Course) (op : Operation) (context : String) (e : Json.Error) : Prop :=
  ∃ t r, c.last? = some t ∧ t.reply = some r ∧ r.IsWholeSuccess ∧
    op.misread? r.content = some (context, e)

/-- The results under three conditions that exclude each other: a token is
lacking, the last attempt failed, its body is misread. -/
inductive Verdict (lacks : Prop) (failed : SendFailure → Prop)
    (misread : String → Json.Error → Prop) : Result → Prop
  | signedOut : lacks → (∀ e, ¬ failed e) → (∀ context e, ¬ misread context e) →
      Verdict lacks failed misread (.error .signedOut)
  | failed {e : SendFailure} : ¬ lacks → (∀ e', failed e' ↔ e = e') →
      (∀ context e, ¬ misread context e) → e ≠ .unencodable →
      Verdict lacks failed misread (.error (.sending e))
  | misread {context : String} {e : Json.Error} : ¬ lacks → (∀ e, ¬ failed e) →
      (∀ context' e', misread context' e' ↔ context = context' ∧ e = e') →
      Verdict lacks failed misread (.error (.unreadable context e))
  | answered {a : Answer} : ¬ lacks → (∀ e, ¬ failed e) → (∀ context e, ¬ misread context e) →
      Verdict lacks failed misread (.ok a)

/-- Each kind of result stands for exactly one of the conditions. -/
theorem Verdict.exact {lacks : Prop} {failed : SendFailure → Prop}
    {misread : String → Json.Error → Prop} {r : Result} (v : Verdict lacks failed misread r) :
    (r = .error .signedOut ↔ lacks) ∧
      (∀ e, r = .error (.sending e) ↔ failed e) ∧
      (∀ context e, r = .error (.unreadable context e) ↔ misread context e) ∧
      ((∃ a, r = .ok a) ↔ ¬ lacks ∧ (∀ e, ¬ failed e) ∧ ∀ context e, ¬ misread context e) ∧
      (∀ fault, r ≠ .error (.misconfigured fault)) ∧
      r ≠ .error (.sending .unencodable) := by
  cases v with
  | signedOut hl hf hm => simp [hl, hf, hm]
  | failed hl hf hm he => simp [hl, hf, hm, he]
  | misread hl hf hm => simp [hl, hf, hm]
  | answered hl hf hm => simp [hl, hf, hm]

/-- What a result says of the course that led to it. -/
structure Course.Classified (start : Scene) (op : Operation) (c : Course) : Prop where
  signedOut : c.result = .error .signedOut ↔ op.Lacks start.session
  untouched : op.Lacks start.session →
    c.tries = [] ∧ c.after.traffic = start.traffic ∧ c.after.service = start.service
  tried : ¬ op.Wanting start.session → c.tries ≠ []
  sending : ∀ e, c.result = .error (.sending e) ↔ c.Failed op e
  unreadable : ∀ context e, c.result = .error (.unreadable context e) ↔ c.Misread op context e
  answered : (∃ a, c.result = .ok a) ↔ ¬ op.Lacks start.session ∧ (∀ e, ¬ c.Failed op e) ∧
    ∀ context e, ¬ c.Misread op context e
  configured : ∀ fault, c.result ≠ .error (.misconfigured fault)
  encoded : c.result ≠ .error (.sending .unencodable)
  intact : ∀ f, c.result = .error f → c.after.session = (start.happenAll c.events).session
  attempts : c.after.traffic.attempts = start.traffic.attempts + c.tries.length

/-- Without an attempt nothing fails and nothing is misread. -/
theorem Course.quiet {c : Course} (h : c.tries = []) (op : Operation) :
    (∀ e, ¬ c.Failed op e) ∧ ∀ context e, ¬ c.Misread op context e := by
  have hn : c.last? = none := by rw [last?, h, List.getLast?_nil]
  constructor
  · rintro e ⟨_, t, ht, _⟩
    rw [hn] at ht
    cases ht
  · rintro context e ⟨t, r, ht, _⟩
    rw [hn] at ht
    cases ht

/-- With a last attempt, it is the one that failed or is misread. -/
theorem Course.last_verdict {c : Course} {t : Try} (ht : c.last? = some t) (hf : t.Fair)
    {op : Operation} {held : Session} (hl : ¬ op.Lacks held)
    (hr : c.result = (op.land held t.outcome).1) :
    Verdict (op.Lacks held) (c.Failed op) (c.Misread op) c.result := by
  have hfailed : ∀ e, c.Failed op e ↔ op.Heeds ∧ t.outcome = .error e := by
    intro e
    simp [Failed, ht]
  have hmisread : ∀ context e, c.Misread op context e ↔
      ∃ body, t.outcome = .ok body ∧ op.misread? body = some (context, e) := by
    intro context e
    simp only [Misread, ht, Option.some.injEq, hf.outcome_eq_ok]
    constructor
    · rintro ⟨_, r, rfl, hrep, hw, hm⟩
      exact ⟨r.content, ⟨r, hrep, hw, rfl⟩, hm⟩
    · rintro ⟨_, ⟨r, hrep, hw, rfl⟩, hm⟩
      exact ⟨t, r, rfl, hrep, hw, hm⟩
  obtain ⟨hh, ho⟩ | ⟨hh, e, he, ho⟩ | ⟨hh, body, ⟨context, e⟩, he, hm, ho⟩ |
    ⟨hh, body, a, w, he, hm, ho⟩ := op.land_cases held t.outcome
  · rw [hr, ho]
    refine .answered hl (fun e h => hh ((hfailed e).mp h).1) ?_
    intro context e h
    obtain ⟨body, _, hm⟩ := (hmisread context e).mp h
    exact hh (Operation.heeds_of_misread hm)
  · rw [hr, ho]
    refine .failed hl (fun e' => by simp [hfailed, hh, he]) (by simp [hmisread, he]) ?_
    rintro rfl
    exact hf.outcome_ne_unencodable he
  · rw [hr, ho]
    exact .misread hl (by simp [hfailed, he]) (by simp [hmisread, he, hm])
  · rw [hr, ho]
    exact .answered hl (by simp [hfailed, he]) (by simp [hmisread, he, hm])

theorem Course.verdict (others : Others) (config : Config) (op : Operation) (s : Scene) :
    let c := s.course others config op
    Verdict (op.Lacks s.session) (c.Failed op) (c.Misread op) c.result := by
  intro c
  by_cases h : op.Wanting s.session
  · have hc : c = _ := Scene.course_of_wanting others config h
    obtain ⟨hf, hm⟩ := Course.quiet (c := c) (by rw [hc]) op
    obtain ⟨hl, hw⟩ | ⟨hl, a, w, hw⟩ := Operation.withoutToken_cases h
    · have hr : c.result = .error .signedOut := by rw [hc, hw]
      rw [hr]
      exact .signedOut hl hf hm
    · have hr : c.result = .ok a := by rw [hc, hw]
      rw [hr]
      exact .answered hl hf hm
  · obtain ⟨hfair, _, t, ht, hr, _⟩ := Scene.course_of_sent others config h
    have hmem : t ∈ c.tries := List.mem_of_getLast? ht
    exact Course.last_verdict ht (hfair t hmem).2 (mt Operation.wanting_of_lacks h) hr

/-- **Which failure, and when.** Without a token that it needs, an operation
is signed out, and neither makes an attempt nor uses a reply; with its token, or
if it takes none, it makes an attempt. It fails to send exactly if its last
attempt failed, with that failure; it cannot read its answer exactly if the last
attempt was a success that arrived whole and whose body it cannot read, and says
in which answer it stood; in all other cases it answers. It never complains of
the settings or of its own payload, and a failure leaves the session as the
others made it. -/
theorem error_taxonomy (others : Others) (config : Config) (op : Operation) (s : Scene) :
    (s.course others config op).Classified s op := by
  obtain ⟨hsigned, hsending, hunread, hok, hconf, henc⟩ :=
    (Course.verdict others config op s).exact
  refine ⟨hsigned, ?_, fun hw => (Scene.course_tried others config hw).1, hsending, hunread, hok,
    hconf, henc, ?_, Scene.course_attempts others config⟩
  · intro hl
    have hw := Operation.wanting_of_lacks hl
    obtain ⟨htries, htraffic⟩ := Scene.course_untried others config hw
    exact ⟨htries, htraffic, Scene.course_unused others config hw⟩
  · intro f hf
    by_cases h : op.Wanting s.session
    · obtain ⟨hl, hw⟩ | ⟨hl, a, w, hw⟩ := Operation.withoutToken_cases h
      · rw [Scene.course_of_wanting others config h, hw]
        rfl
      · rw [Scene.course_of_wanting others config h, hw] at hf
        cases hf
    · obtain ⟨_, _, t, _, hr, hsession⟩ := Scene.course_of_sent others config h
      rw [hr] at hf
      rw [hsession, Operation.land_write_of_error hf]
      rfl

end SignOn
