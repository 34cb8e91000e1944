import SignOn.Proofs.Course
import Mathlib.Data.List.Induction

/-!
Any number of operations under way at once on one session. A move starts an
operation, ends an attempt of one of them, lets one write that has made no
attempt, or is an event beside them. What an attempt yields, and when, is left
open: whatever happens between a request and its reply is moves before that
reply.

* `Shared.step_session`: a move makes one write or none;
* `Shared.run_landed`: an operation that has landed does nothing more;
* `Shared.run_begun`: an operation under way still goes by the session that it
  found at its start;
* `Shared.run_closing`: one that is about to write without an attempt has found
  its token missing;
* `Scene.perform_shared`, `Scene.performBoth_shared`: one operation, or two in
  turn, with the replies of a service, make such moves.
-/

namespace SignOn

/-- How far an operation has come: it waits for the end of an attempt, it is about
to write without having made one, or it has landed. -/
inductive Progress
  | waiting (flight : Flight)
  | closing (result : Result) (write : Session.Write)
  | landed (result : Result)

/-- An operation and how far it has come. -/
structure Task where
  operation : Operation
  progress : Progress

/-- One session with all that goes on about it. The tasks are in the order of
their starts. -/
structure Shared where
  session : Session
  clock : Instant
  tasks : List Task := []

/-- A start, the end of an attempt of the task with the given number, its write
without an attempt, or an event. -/
inductive Move
  | start (config : Config) (op : Operation)
  | receive (task : Nat) (outcome : Outcome)
  | close (task : Nat)
  | event (e : Event)

def Leg.progress : Leg → Progress
  | .waiting flight => .waiting flight
  | .landed result => .landed result

namespace Stage

/-- Where an operation stands after its start. It has only looked at the session
so far. -/
def opening : Stage → Progress
  | .waiting flight => .waiting flight
  | .landed result none => .landed result
  | .landed result (some write) => .closing result write

/-- Where an operation stands after an attempt. What it writes is written then. -/
def progress : Stage → Progress
  | .waiting flight => .waiting flight
  | .landed result _ => .landed result

/-- What is written when the stage is reached. -/
def write : Stage → Option Session.Write
  | .waiting _ => none
  | .landed _ write => write

end Stage

namespace Shared

/-- A write, if there is one. -/
def landing (s : Shared) : Option Session.Write → Shared
  | none => s
  | some w => { s with session := s.session.write s.clock w }

def step (s : Shared) : Move → Shared
  | .start config op => { s with tasks := s.tasks ++ [⟨op, (op.start config s.session).opening⟩] }
  | .receive i o =>
    match s.tasks[i]? with
    | some ⟨op, .waiting flight⟩ =>
      let stage := (flight.receive o).2
      { s.landing stage.write with tasks := s.tasks.set i ⟨op, stage.progress⟩ }
    | _ => s
  | .close i =>
    match s.tasks[i]? with
    | some ⟨op, .closing result write⟩ =>
      { s.landing (some write) with tasks := s.tasks.set i ⟨op, .landed result⟩ }
    | _ => s
  | .event (.write w) => s.landing (some w)
  | .event (.setClock now) => { s with clock := now }

def run (s : Shared) (moves : List Move) : Shared := moves.foldl step s

theorem run_append (s : Shared) (before after : List Move) :
    s.run (before ++ after) = (s.run before).run after :=
  List.foldl_append

theorem run_concat (s : Shared) (moves : List Move) (m : Move) :
    s.run (moves ++ [m]) = (s.run moves).step m :=
  s.run_append moves [m]

/-- The task that a move is about. -/
def task? (s : Shared) : Move → Option Nat
  | .start _ _ => some s.tasks.length
  | .receive i _ | .close i => some i
  | .event _ => none

/-- What a move writes. -/
def written (s : Shared) : Move → Option Session.Write
  | .start _ _ => none
  | .receive i o =>
    match s.tasks[i]? with
    | some ⟨_, .waiting flight⟩ => (flight.receive o).2.write
    | _ => none
  | .close i =>
    match s.tasks[i]? with
    | some ⟨_, .closing _ write⟩ => some write
    | _ => none
  | .event (.write w) => some w
  | .event (.setClock _) => none

/-! ## Steps -/

/-- The session changes by what the move writes, if anything. -/
theorem step_session (s : Shared) (m : Move) :
    (s.step m).session = (s.landing (s.written m)).session := by
  cases m with
  | start config op => rfl
  | receive i o | close i =>
    simp only [step, written]
    split
    · rfl
    · rfl
  | event e => cases e <;> rfl

/-- A task that stands in the list after one was replaced is that one, or it
stood there before. -/
theorem task_of_set {tasks : List Task} {i j : Nat} {t u : Task}
    (h : (tasks.set j u)[i]? = some t) : j = i ∧ t = u ∨ tasks[i]? = some t := by
  rw [List.getElem?_set] at h
  split at h
  · next hij =>
    split at h
    · exact Or.inl ⟨hij, (Option.some.inj h).symm⟩
    · cases h
  · exact Or.inr h

/-- Where a task comes from: it starts with the move, or it stood there before
and has come further if the move is the end of its attempt or its write. -/
theorem task_of_step {s : Shared} {m : Move} {i : Nat} {op : Operation} {p : Progress}
    (h : (s.step m).tasks[i]? = some ⟨op, p⟩) :
    (∃ config, m = .start config op ∧ i = s.tasks.length ∧
        p = (op.start config s.session).opening) ∨
      s.tasks[i]? = some ⟨op, p⟩ ∨
      (∃ f o, m = .receive i o ∧ s.tasks[i]? = some ⟨op, .waiting f⟩ ∧
        p = (f.receive o).2.progress) ∨
      ∃ r w, m = .close i ∧ s.tasks[i]? = some ⟨op, .closing r w⟩ ∧ p = .landed r := by
  cases m with
  | start config op' =>
    simp only [step, List.getElem?_append] at h
    split at h
    · exact Or.inr (Or.inl h)
    · next hi =>
      obtain ⟨hj, ht⟩ := List.getElem?_eq_some_iff.mp h
      have hi' : i = s.tasks.length := by
        simp only [List.length_singleton] at hj
        omega
      subst hi'
      simp only [Nat.sub_self, List.getElem_cons_zero, Task.mk.injEq] at ht
      obtain ⟨rfl, rfl⟩ := ht
      exact Or.inl ⟨config, rfl, rfl, rfl⟩
  | receive j o =>
    simp only [step] at h
    split at h
    · next op' f hj =>
      rcases task_of_set h with ⟨rfl, ht⟩ | hbefore
      · cases ht
        exact Or.inr (Or.inr (Or.inl ⟨f, o, rfl, hj, rfl⟩))
      · exact Or.inr (Or.inl hbefore)
    · exact Or.inr (Or.inl h)
  | close j =>
    simp only [step] at h
    split at h
    · next op' r w hj =>
      rcases task_of_set h with ⟨rfl, ht⟩ | hbefore
      · cases ht
        exact Or.inr (Or.inr (Or.inr ⟨r, w, rfl, hj, rfl⟩))
      · exact Or.inr (Or.inl hbefore)
    · exact Or.inr (Or.inl h)
  | event e =>
    cases e with
    | write w => exact Or.inr (Or.inl h)
    | setClock now => exact Or.inr (Or.inl h)

/-- An operation that has landed stays as it is. -/
theorem step_landed {s : Shared} {i : Nat} {op : Operation} {r : Result}
    (h : s.tasks[i]? = some ⟨op, .landed r⟩) (m : Move) :
    (s.step m).tasks[i]? = some ⟨op, .landed r⟩ := by
  have hi : i < s.tasks.length := (List.getElem?_eq_some_iff.mp h).1
  cases m with
  | start config op' =>
    simp only [step]
    rw [List.getElem?_append_left hi]
    exact h
  | receive j o | close j =>
    simp only [step]
    split
    · next hj =>
      have hne : j ≠ i := by
        rintro rfl
        rw [h] at hj
        cases hj
      rw [List.getElem?_set_ne hne]
      exact h
    · exact h
  | event e => cases e <;> exact h

theorem run_landed {s : Shared} {i : Nat} {op : Operation} {r : Result}
    (h : s.tasks[i]? = some ⟨op, .landed r⟩) (moves : List Move) :
    (s.run moves).tasks[i]? = some ⟨op, .landed r⟩ := by
  induction moves generalizing s with
  | nil => exact h
  | cons m moves ih => exact ih (step_landed h m)

end Shared

/-! ## Operations under way -/

namespace Operation

variable (config : Config) {op : Operation} {s : Session}

/-- Only signing off has something to write when its token is not there. -/
theorem opening_of_wanting (h : op.Wanting s) :
    op = .logout ∧ (op.start config s).opening = .closing (.ok .done) .clear ∨
      (op.start config s).opening = .landed op.withoutToken.1 := by
  rw [start_of_wanting config h]
  cases op with
  | logout => exact Or.inl ⟨rfl, rfl⟩
  | _ => exact Or.inr rfl

theorem opening_of_not_wanting (h : ¬ op.Wanting s) :
    (op.start config s).opening = .waiting (op.flight config s) := by
  rw [start_of_not_wanting config h]
  rfl

end Operation

namespace Flight

/-- An attempt with this outcome is the last one. -/
def Ends (f : Flight) (o : Outcome) : Prop :=
  mayPass o → ¬ f.call.retries < f.call.policy.limit

/-- The operation after `n` retries. -/
def retrying (f : Flight) (n : UInt32) : Flight := { f with call := { f.call with retries := n } }

theorem receive_of_ends {f : Flight} {o : Outcome} (h : f.Ends o) :
    (f.receive o).2 = .landed (f.land o).1 (f.land o).2 := by
  have hn : f.call.next o = .ended o := Call.next_eq_ended.mpr ⟨rfl, h⟩
  rw [receive, hn]

theorem receive_of_not_ends {f : Flight} {o : Outcome} (h : ¬ f.Ends o) :
    (f.receive o).2 = .waiting (f.retrying (f.call.retries + 1)) := by
  simp only [Ends, Classical.not_imp, not_not] at h
  obtain ⟨hp, hl⟩ := h
  obtain ⟨e, rfl, he⟩ := mayPass_iff.mp hp
  have hn : f.call.next (.error e) = .again (f.call.notice e) f.call.retried :=
    Call.next_eq_again.mpr ⟨e, rfl, he, hl, rfl, rfl⟩
  rw [receive, hn]
  rfl

end Flight

namespace Shared

/-- The task with the number `i` started on the way and found its token then; it
goes by the session of that moment. -/
def Begun (start : Shared) (moves : List Move) (i : Nat) (op : Operation) (f : Flight) : Prop :=
  ∃ before config after n, moves = before ++ .start config op :: after ∧
    i = (start.run before).tasks.length ∧ ¬ op.Wanting (start.run before).session ∧
    f = (op.flight config (start.run before).session).retrying n

theorem Begun.snoc {start : Shared} {moves : List Move} {i : Nat} {op : Operation} {f : Flight}
    (h : start.Begun moves i op f) (m : Move) : start.Begun (moves ++ [m]) i op f := by
  obtain ⟨before, config, after, n, rfl, hi, hw, hf⟩ := h
  exact ⟨before, config, after ++ [m], n, by simp, hi, hw, hf⟩

theorem Begun.retrying {start : Shared} {moves : List Move} {i : Nat} {op : Operation}
    {f : Flight} (h : start.Begun moves i op f) (k : UInt32) :
    start.Begun moves i op (f.retrying k) := by
  obtain ⟨before, config, after, n, hm, hi, hw, rfl⟩ := h
  exact ⟨before, config, after, k, hm, hi, hw, rfl⟩

/-- **What is under way has begun.** Whatever happened since, an operation still
holds the session that it found at its start. -/
theorem run_begun {start : Shared} (hs : start.tasks = []) {moves : List Move} {i : Nat}
    {op : Operation} {f : Flight}
    (h : (start.run moves).tasks[i]? = some ⟨op, .waiting f⟩) : start.Begun moves i op f := by
  induction moves using List.reverseRecOn generalizing f with
  | nil =>
    have hn : start.tasks[i]? = some ⟨op, .waiting f⟩ := h
    rw [hs] at hn
    cases hn
  | append_singleton moves m ih =>
    -- The flight starts with the last move, stands as before, or has one retry more.
    rw [run_concat] at h
    obtain ⟨config, rfl, hi, hp⟩ | hb | ⟨g, o, rfl, hg, hp⟩ | ⟨r, w, _, _, hp⟩ := task_of_step h
    · by_cases hw : op.Wanting (start.run moves).session
      · obtain ⟨_, hopen⟩ | hopen := Operation.opening_of_wanting config hw
        · cases hp.trans hopen
        · cases hp.trans hopen
      · cases hp.trans (Operation.opening_of_not_wanting config hw)
        exact ⟨moves, config, [], 0, rfl, hi, hw, rfl⟩
    · exact (ih hb).snoc m
    · by_cases ho : g.Ends o
      · rw [Flight.receive_of_ends ho] at hp
        cases hp
      · rw [Flight.receive_of_not_ends ho] at hp
        cases hp
        exact ((ih hg).retrying _).snoc _
    · cases hp

/-- The task with the number `i` has started to sign off, and found no access token. -/
def Bare (start : Shared) (moves : List Move) (i : Nat) : Prop :=
  ∃ before config after, moves = before ++ .start config .logout :: after ∧
    i = (start.run before).tasks.length ∧ (start.run before).session.accessToken = none

theorem Bare.snoc {start : Shared} {moves : List Move} {i : Nat} (h : start.Bare moves i)
    (m : Move) : start.Bare (moves ++ [m]) i := by
  obtain ⟨before, config, after, rfl, hi, ht⟩ := h
  exact ⟨before, config, after ++ [m], by simp, hi, ht⟩

/-- **What writes without an attempt** signs off: there was no access token at its
start, and it still has to empty the session. -/
theorem run_closing {start : Shared} (hs : start.tasks = []) {moves : List Move} {i : Nat}
    {op : Operation} {r : Result} {w : Session.Write}
    (h : (start.run moves).tasks[i]? = some ⟨op, .closing r w⟩) :
    op = .logout ∧ r = .ok .done ∧ w = .clear ∧ start.Bare moves i := by
  induction moves using List.reverseRecOn with
  | nil =>
    have hn : start.tasks[i]? = some ⟨op, .closing r w⟩ := h
    rw [hs] at hn
    cases hn
  | append_singleton moves m ih =>
    rw [run_concat] at h
    obtain ⟨config, rfl, hi, hp⟩ | hb | ⟨g, o, _, _, hp⟩ | ⟨_, _, _, _, hp⟩ := task_of_step h
    · by_cases hw : op.Wanting (start.run moves).session
      · obtain ⟨rfl, hopen⟩ | hopen := Operation.opening_of_wanting config hw
        · cases hp.trans hopen
          exact ⟨rfl, rfl, rfl, moves, config, [], rfl, hi, hw.2⟩
        · cases hp.trans hopen
      · cases hp.trans (Operation.opening_of_not_wanting config hw)
    · obtain ⟨hop, hr, hw, hbare⟩ := ih hb
      exact ⟨hop, hr, hw, hbare.snoc m⟩
    · by_cases ho : g.Ends o
      · rw [Flight.receive_of_ends ho] at hp
        cases hp
      · rw [Flight.receive_of_not_ends ho] at hp
        cases hp
    · cases hp

end Shared

/-! ## Operations that take turns -/

namespace Scene

/-- A scene without its service, for all the operations under way in it. -/
def shared (s : Scene) (tasks : List Task) : Shared := ⟨s.session, s.clock, tasks⟩

theorem happenAll_shared (s : Scene) (tasks : List Task) (events : List Event) :
    (s.shared tasks).run (events.map .event) = (s.happenAll events).shared tasks := by
  induction events generalizing s with
  | nil => rfl
  | cons e events ih =>
    have he : (s.shared tasks).step (.event e) = (s.happen e).shared tasks := by cases e <;> rfl
    rw [List.map_cons, Shared.run, List.foldl_cons, he]
    exact ih (s.happen e)

/-- A stage that is reached, for a task among others. -/
theorem reach_shared (s : Scene) (stage : Stage) (before after : List Task) :
    (s.reach stage).1.progress = stage.progress ∧
      { (s.shared before).landing stage.write with tasks := after } =
        (s.reach stage).2.shared after := by
  cases stage with
  | waiting f => exact ⟨rfl, rfl⟩
  | landed r w => cases w <;> exact ⟨rfl, rfl⟩

/-- A start with nobody about, and with its write right after it if it has one. -/
theorem start_shared (s : Scene) (tasks : List Task) (config : Config) (op : Operation) :
    let out := s.reach (op.start config s.session)
    ∃ moves, (s.shared tasks).run moves = out.2.shared (tasks ++ [⟨op, out.1.progress⟩]) := by
  intro out
  have hstep : (s.shared tasks).step (.start config op) =
      s.shared (tasks ++ [⟨op, (op.start config s.session).opening⟩]) := rfl
  cases hstage : op.start config s.session with
  | waiting f =>
    refine ⟨[.start config op], hstep.trans ?_⟩
    simp only [out, hstage]
    rfl
  | landed r w =>
    cases w with
    | none =>
      refine ⟨[.start config op], hstep.trans ?_⟩
      simp only [out, hstage]
      rfl
    | some w =>
      have hopen : (op.start config s.session).opening = .closing r w := by rw [hstage]; rfl
      refine ⟨[.start config op, .close tasks.length], ?_⟩
      rw [Shared.run, List.foldl_cons, hstep, hopen]
      simp only [out, hstage, List.foldl_cons, List.foldl_nil, Shared.step, shared,
        List.getElem?_concat_length, List.set_append_right, le_refl, Nat.sub_self,
        List.set_cons_zero]
      rfl

/-- An attempt is what happens until its reply, and then its end. -/
theorem advance_shared (s : Scene) (tasks : List Task) (i : Nat) (leg : Leg) {op : Operation}
    (h : tasks[i]? = some ⟨op, leg.progress⟩) :
    ∃ moves, (s.shared tasks).run moves =
      (s.advance leg).2.shared (tasks.set i ⟨op, (s.advance leg).1.progress⟩) := by
  cases leg with
  | landed r =>
    obtain ⟨hi, ht⟩ := List.getElem?_eq_some_iff.mp h
    refine ⟨[], ?_⟩
    rw [advance, ← ht, List.set_getElem_self]
    rfl
  | waiting f =>
    let q := f.call.request
    let events := ((s.service.reply? q).map (·.meanwhile)).getD []
    let after := (s.attempt q).2.announce (f.receive (s.attempt q).1).1.toList
    obtain ⟨hs, hc⟩ := attempt_happened q s
    refine ⟨events.map .event ++ [.receive i (s.attempt q).1], ?_⟩
    have hshared : (s.happenAll events).shared tasks = after.shared tasks := by
      rw [shared, ← hs, ← hc]
      rfl
    obtain ⟨hl, hr⟩ := reach_shared after (f.receive (s.attempt q).1).2 tasks
      (tasks.set i ⟨op, (s.advance (.waiting f)).1.progress⟩)
    have hstep : (after.shared tasks).step (.receive i (s.attempt q).1) =
        { (after.shared tasks).landing (f.receive (s.attempt q).1).2.write with
          tasks := tasks.set i ⟨op, (f.receive (s.attempt q).1).2.progress⟩ } := by
      simp only [Shared.step, shared, h, Leg.progress]
    rw [Shared.run_concat, happenAll_shared, hshared, hstep, ← hl]
    exact hr

/-- Notices do not show in a session. -/
theorem landing_shared (s : Scene) (tasks : List Task) (notices : List Notice)
    (w : Option Session.Write) :
    ((s.announce notices).landing w).shared tasks = (s.landing w).shared tasks := by
  cases w <;> rfl

theorem loop_shared (op : Operation) (f : Flight) (s : Scene) :
    ∃ moves, (s.shared [⟨op, .waiting f⟩]).run moves =
      ((f.call.run attempt s).2.2.landing (f.land (f.call.run attempt s).2.1).2).shared
        [⟨op, .landed (f.land (f.call.run attempt s).2.1).1⟩] := by
  obtain ⟨moves, hm⟩ := advance_shared s [⟨op, .waiting f⟩] 0 (.waiting f) rfl
  cases hn : f.call.next (s.attempt f.call.request).1 with
  | ended o =>
    refine ⟨moves, hm.trans ?_⟩
    simp only [Call.run_ended hn, advance, Flight.receive, hn, List.set_cons_zero]
    exact landing_shared _ _ [] _
  | again n d =>
    have := Call.next_left hn
    obtain ⟨rest, hr⟩ := loop_shared op { f with call := d } (s.attempt f.call.request).2
    refine ⟨moves ++ rest, ?_⟩
    rw [Shared.run_append, hm, Call.run_again hn]
    simp only [advance, Flight.receive, hn, List.set_cons_zero]
    exact hr
termination_by f.call.left

/-- **A whole operation** is a run of its session. -/
theorem perform_shared (config : Config) (op : Operation) (s : Scene) :
    let out := s.perform config op
    ∃ moves, (s.shared []).run moves = out.2.shared [⟨op, .landed out.1⟩] := by
  intro out
  obtain ⟨first, hs⟩ := start_shared s [] config op
  by_cases h : op.Wanting s.session
  · refine ⟨first, hs.trans ?_⟩
    simp only [out, perform, Operation.start_of_wanting config h]
    rfl
  · obtain ⟨moves, hm⟩ := loop_shared op (op.flight config s.session) s
    refine ⟨first ++ moves, ?_⟩
    rw [Shared.run_append, hs]
    simp only [out, perform, Operation.start_of_not_wanting config h]
    exact hm.trans (landing_shared _ _ _ _).symm

theorem inTurn_shared (op₁ op₂ : Operation) (a b : Leg) (s : Scene) :
    ∃ moves, (s.shared [⟨op₁, a.progress⟩, ⟨op₂, b.progress⟩]).run moves =
      (s.inTurn a b).2.shared
        [⟨op₁, .landed (s.inTurn a b).1.1⟩, ⟨op₂, .landed (s.inTurn a b).1.2⟩] := by
  fun_induction inTurn a b s with
  | case1 s ra rb => exact ⟨[], rfl⟩
  | case2 s f b first second ih =>
    obtain ⟨m₁, h₁⟩ := advance_shared s [⟨op₁, .waiting f⟩, ⟨op₂, b.progress⟩] 0 (.waiting f) rfl
    obtain ⟨m₂, h₂⟩ := advance_shared first.2 [⟨op₁, first.1.progress⟩, ⟨op₂, b.progress⟩] 1 b rfl
    obtain ⟨m₃, h₃⟩ := ih
    refine ⟨m₁ ++ (m₂ ++ m₃), ?_⟩
    rw [Shared.run_append, Shared.run_append]
    exact (congrArg (fun s => (Shared.run s m₂).run m₃) h₁).trans
      ((congrArg (Shared.run · m₃) h₂).trans h₃)
  | case3 s ra f second ih =>
    obtain ⟨m₁, h₁⟩ := advance_shared s [⟨op₁, .landed ra⟩, ⟨op₂, .waiting f⟩] 1 (.waiting f) rfl
    obtain ⟨m₂, h₂⟩ := ih
    refine ⟨m₁ ++ m₂, ?_⟩
    rw [Shared.run_append]
    exact (congrArg (Shared.run · m₂) h₁).trans h₂

/-- **Two operations in turn** are a run of the session that they share. -/
theorem performBoth_shared (config : Config) (op₁ op₂ : Operation) (s : Scene) :
    let out := s.performBoth config op₁ op₂
    ∃ moves, (s.shared []).run moves =
      out.2.shared [⟨op₁, .landed out.1.1⟩, ⟨op₂, .landed out.1.2⟩] := by
  intro out
  let first := s.reach (op₁.start config s.session)
  let second := first.2.reach (op₂.start config first.2.session)
  obtain ⟨m₁, h₁⟩ := start_shared s [] config op₁
  obtain ⟨m₂, h₂⟩ := start_shared first.2 [⟨op₁, first.1.progress⟩] config op₂
  obtain ⟨m₃, h₃⟩ := inTurn_shared op₁ op₂ first.1 second.1 second.2
  refine ⟨m₁ ++ (m₂ ++ m₃), ?_⟩
  rw [Shared.run_append, Shared.run_append, h₁]
  exact (congrArg (Shared.run · m₃) h₂).trans h₃

end Scene

end SignOn
