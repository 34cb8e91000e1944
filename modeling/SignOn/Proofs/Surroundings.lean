import SignOn.Scene

/-!
What single steps do to the surroundings of an operation: events change only
the session and the clock, and an attempt counts once, in the traffic and in
the replies of the service.
-/

namespace SignOn

theorem Service.next_snd (s : Service) : s.next.2 = { s with replies := s.replies.drop 1 } := by
  cases s with
  | mk reachable replies library => cases replies <;> rfl

/-- What the library sends on in the course of an attempt. -/
def Service.sentOn (s : Service) (q : Request) : List Request :=
  if s.receives q then (s.answer q).sent else []

/-- What keeps a request from the service. -/
def Library.obstacle (l : Library) (q : Request) : Breakdown :=
  if l.builds q then .noAnswer q.url else .unbuildable

namespace Scene

theorem happenAll_append (s : Scene) (before after : List Event) :
    s.happenAll (before ++ after) = (s.happenAll before).happenAll after :=
  List.foldl_append

/-- What events make of the session and the clock depends on these alone. -/
theorem happenAll_congr {s t : Scene} (hs : s.session = t.session) (hc : s.clock = t.clock)
    (events : List Event) :
    (s.happenAll events).session = (t.happenAll events).session ∧
      (s.happenAll events).clock = (t.happenAll events).clock := by
  induction events generalizing s t with
  | nil => exact ⟨hs, hc⟩
  | cons e events ih =>
    cases e with
    | write w => exact ih (s := s.happen (.write w)) (t := t.happen (.write w)) (by
        rw [happen, happen, hs, hc]) hc
    | setClock now => exact ih (s := s.happen (.setClock now)) (t := t.happen (.setClock now)) hs rfl

theorem happenAll_service (s : Scene) (events : List Event) :
    (s.happenAll events).service = s.service := by
  induction events generalizing s with
  | nil => rfl
  | cons e events ih =>
    rw [happenAll, List.foldl_cons]
    refine (ih (s.happen e)).trans ?_
    cases e <;> rfl

theorem happenAll_traffic (s : Scene) (events : List Event) :
    (s.happenAll events).traffic = s.traffic := by
  induction events generalizing s with
  | nil => rfl
  | cons e events ih =>
    rw [happenAll, List.foldl_cons]
    refine (ih (s.happen e)).trans ?_
    cases e <;> rfl

/-- An attempt that gets to the service takes one reply and is on record there. -/
theorem attempt_received {q : Request} {s : Scene} (h : s.service.receives q) :
    s.attempt q = (q.outcome (s.service.answer q).reply,
      (s.counted.received q).happenAll (s.service.answer q).reply.meanwhile) := by
  simp only [Service.receives, Bool.and_eq_true] at h
  simp [attempt, h.1, h.2]

/-- An attempt that does not get to the service is only counted. -/
theorem attempt_unreceived {q : Request} {s : Scene} (h : ¬ s.service.receives q) :
    s.attempt q = (.error (.network (s.service.library.obstacle q)), s.counted) := by
  simp only [Service.receives, Bool.and_eq_true, not_and, Bool.not_eq_true] at h
  unfold attempt Library.obstacle
  by_cases hb : s.service.library.builds q
  · simp [hb, h hb]
  · simp [hb]

/-- How many requests and replies `k` attempts account for: all or none. -/
def share (s : Scene) (q : Request) (k : Nat) : Nat := if s.service.receives q then k else 0

theorem attempt_traffic (q : Request) (s : Scene) :
    (s.attempt q).2.traffic = { s.traffic with
      attempts := s.traffic.attempts + 1
      requests := s.traffic.requests ++ List.replicate (s.share q 1) q
      onward := s.traffic.onward ++ s.service.sentOn q } := by
  by_cases h : s.service.receives q
  · rw [attempt_received h, happenAll_traffic]
    simp [received, counted, share, Service.sentOn, h]
  · simp [attempt_unreceived h, counted, share, Service.sentOn, h]

theorem attempt_service (q : Request) (s : Scene) :
    (s.attempt q).2.service =
      { s.service with replies := s.service.replies.drop (s.share q 1) } := by
  by_cases h : s.service.receives q
  · rw [attempt_received h, happenAll_service, share, if_pos h]
    exact Service.next_snd s.service
  · simp [attempt_unreceived h, counted, share, h]

theorem attempt_share (q : Request) (s : Scene) (k : Nat) :
    (s.attempt q).2.share q k = s.share q k := by
  rw [share, share, attempt_service]
  rfl

theorem share_add (s : Scene) (q : Request) (k n : Nat) :
    s.share q k + s.share q n = s.share q (k + n) := by
  unfold share
  split <;> rfl

end Scene

end SignOn
