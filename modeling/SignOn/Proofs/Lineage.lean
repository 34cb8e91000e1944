import SignOn.Proofs.WellFormed

/-!
Which clients stem from which. A client that is set up founds a line, and a
clone belongs to the line of its original. A line is known by the number of its
founder, so that it does not depend on how sessions are numbered. Operations may
be under way on any client while others act.

* `Fleet.act_of_play`: what adds no client is done within the surroundings of one;
* `Convoy.Ordered.passage`: what one turn does to the clients and their sessions;
* `Convoy.Ordered.run`: clients have one session exactly if they are of one line;
* `Convoy.Ordered.passage_session?`: a turn leaves the sessions of other lines alone.
-/

namespace SignOn

/-- Clients, the line of each, and the operations under way, each with the
number of its client, in the order of their starts. -/
structure Convoy where
  fleet : Fleet
  lines : List Nat := []
  tasks : List (Nat × Task) := []

/-- Something is done with the clients, at one go; or an operation starts on a
client and goes on attempt by attempt, or makes its write without one. -/
inductive Turn
  | stride (stride : Stride)
  | start (client : Nat) (op : Operation)
  | receive (task : Nat) (outcome : Outcome)
  | close (task : Nat)

/-- The lines after another client is set up, if its settings are acceptable. -/
def Config.founds (config : Config) (lines : List Nat) : List Nat :=
  match config.check with
  | .ok () => lines ++ [lines.length]
  | .error _ => lines

def Action.lines (client : Nat) (lines : List Nat) : Action → List Nat
  | .clone => lines ++ lines[client]?.toList
  | .construct config => if client < lines.length then config.founds lines else lines
  | _ => lines

def Stride.lines (lines : List Nat) : Stride → List Nat
  | .construct config => config.founds lines
  | .act client action _ => action.lines client lines

/-- A write through a client at the end of an operation, if there is one. -/
def Fleet.landing (f : Fleet) (client : Nat) : Option Session.Write → Fleet
  | none => f
  | some w => f.follow (.act client (.event (.write w)) { reachable := false, replies := [] })

namespace Convoy

/-- Nobody is there yet. -/
def fresh (clock : Instant) : Convoy := { fleet := { clock } }

def step (c : Convoy) : Turn → Convoy
  | .stride s => { c with fleet := c.fleet.follow s, lines := s.lines c.lines }
  | .start client op =>
    match c.fleet.clients[client]?, c.fleet.session? client with
    | some k, some s =>
      { c with tasks := c.tasks ++ [(client, ⟨op, (op.start k.config s).opening⟩)] }
    | _, _ => c
  | .receive i o =>
    match c.tasks[i]? with
    | some (client, ⟨op, .waiting flight⟩) =>
      let stage := (flight.receive o).2
      { c with
        fleet := c.fleet.landing client stage.write
        tasks := c.tasks.set i (client, ⟨op, stage.progress⟩) }
    | _ => c
  | .close i =>
    match c.tasks[i]? with
    | some (client, ⟨op, .closing result write⟩) =>
      { c with
        fleet := c.fleet.landing client (some write)
        tasks := c.tasks.set i (client, ⟨op, .landed result⟩) }
    | _ => c

def run (c : Convoy) (turns : List Turn) : Convoy := turns.foldl step c

end Convoy

/-- The client that a turn goes through. -/
def Turn.client? (c : Convoy) : Turn → Option Nat
  | .stride (.construct _) => none
  | .stride (.act client _ _) => some client
  | .start client _ => some client
  | .receive i _ | .close i => c.tasks[i]?.map Prod.fst

/-! ## Actions -/

/-- What is done with a client within its surroundings, and so adds no other. -/
def Action.play (client : Nat) : Action → Option (Config → Scene → Report × Scene)
  | .clone | .construct _ => none
  | .perform op => some fun config scene =>
    let (result, after) := scene.perform config op
    ({ finding := .one result, traffic := after.traffic, service := after.service,
       subject := client }, after)
  | .performBoth first second => some fun config scene =>
    let ((a, b), after) := scene.performBoth config first second
    ({ finding := .two a b, traffic := after.traffic, service := after.service,
       subject := client }, after)
  | .event e => some fun _ scene =>
    ({ finding := .one (.ok .done), service := scene.service, subject := client },
      scene.happen e)
  | .look => some fun _ scene =>
    ({ finding := .one (.ok .done), service := scene.service, subject := client }, scene)
  | .isAuthenticated => some fun _ scene =>
    ({ finding := .one (.ok (.flag scene.session.isAuthenticated)), service := scene.service,
       subject := client }, scene)

namespace Fleet

variable {f : Fleet} {client : Nat} {action : Action} {service : Service}

/-- Another client, with a session of its own. -/
def found (f : Fleet) (config : Config) : Fleet :=
  { f with
    clients := f.clients ++ [{ config, session := f.sessions.length }]
    sessions := f.sessions ++ [f.initial config] }

theorem follow_construct {config : Config} (h : config.check = .ok ()) :
    f.follow (.construct config) = f.found config := by
  rw [follow, construct, h]
  rfl

theorem construct_refused {config : Config} {fault : Misconfiguration}
    (h : config.check = .error fault) : f.construct config = .error fault := by
  rw [construct, h]

theorem follow_construct_refused {config : Config} {fault : Misconfiguration}
    (h : config.check = .error fault) : f.follow (.construct config) = f := by
  rw [follow, construct_refused h]

/-- Surroundings in which nothing happened leave everything as it is. -/
theorem leave_scene {c : Client} {s : Session} (h : f.sessions[c.session]? = some s) :
    f.leave c (f.scene s service) = f := by
  obtain ⟨hlt, hs⟩ := List.getElem?_eq_some_iff.mp h
  subst hs
  simp only [leave, scene, List.set_getElem_self]

/-- **What adds no client is local**: it goes by the settings and the
surroundings of one client, and leaves what it leaves there. -/
theorem act_of_play {play : Config → Scene → Report × Scene} (hp : action.play client = some play)
    {c : Client} (hc : f.clients[client]? = some c) {s : Session}
    (hs : f.sessions[c.session]? = some s) :
    f.act client action service = some ((play c.config (f.scene s service)).1,
      f.leave c (play c.config (f.scene s service)).2) := by
  unfold act
  rw [hc, Option.bind_eq_bind, Option.bind_some, hs, Option.bind_eq_bind, Option.bind_some]
  cases action with
  | clone | construct config => cases hp
  | perform op | performBoth first second | event e =>
    cases hp
    rfl
  | look | isAuthenticated =>
    cases hp
    simp only [leave_scene hs]
    rfl

theorem follow_of_play {play : Config → Scene → Report × Scene}
    (hp : action.play client = some play) {c : Client} (hc : f.clients[client]? = some c)
    {s : Session} (hs : f.sessions[c.session]? = some s) :
    f.follow (.act client action service) =
      f.leave c (play c.config (f.scene s service)).2 := by
  rw [follow, act_of_play hp hc hs]

theorem follow_clone {c : Client} (hc : f.clients[client]? = some c) {s : Session}
    (hs : f.sessions[c.session]? = some s) :
    f.follow (.act client .clone service) = f.clone c := by
  simp only [follow, act, hc, hs, Option.bind_eq_bind, Option.bind_some]

/-- A client may set up another one. -/
theorem follow_act_construct {c : Client} (hc : f.clients[client]? = some c) {s : Session}
    (hs : f.sessions[c.session]? = some s) (config : Config) :
    f.follow (.act client (.construct config) service) = f.follow (.construct config) := by
  simp only [follow, act, hc, hs, Option.bind_eq_bind, Option.bind_some]
  cases f.construct config with
  | ok g => exact rfl
  | error fault => exact rfl

theorem follow_absent (h : f.clients[client]? = none) (action : Action) (service : Service) :
    f.follow (.act client action service) = f := by
  simp only [follow, act, h, Option.bind_eq_bind, Option.bind_none]

end Fleet

namespace Config

variable {config : Config}

theorem founds_of_check (h : config.check = .ok ()) (lines : List Nat) :
    config.founds lines = lines ++ [lines.length] := by
  rw [founds, h]

theorem founds_refused {fault : Misconfiguration} (h : config.check = .error fault)
    (lines : List Nat) : config.founds lines = lines := by
  rw [founds, h]

end Config

/-! ## Turns -/

/-- What a turn through a client may do: nothing to the clients and their
sessions, something within the surroundings of that client, or one more client. -/
inductive Passage (c : Convoy) : Option Nat → Convoy → Prop
  | kept (via : Option Nat) (tasks : List (Nat × Task)) : Passage c via { c with tasks }
  | left {client : Nat} {k : Client} (hk : c.fleet.clients[client]? = some k) (scene : Scene)
      (tasks : List (Nat × Task)) :
      Passage c (some client) { c with fleet := c.fleet.leave k scene, tasks }
  | cloned {client : Nat} {k : Client} {l : Nat} (hk : c.fleet.clients[client]? = some k)
      (hl : c.lines[client]? = some l) :
      Passage c (some client) { c with fleet := c.fleet.clone k, lines := c.lines ++ [l] }
  | founded (via : Option Nat) (config : Config) :
      Passage c via
        { c with fleet := c.fleet.found config, lines := c.lines ++ [c.lines.length] }

namespace Convoy

/-- The clients with their lines. -/
def berths (c : Convoy) : List (Client × Nat) := c.fleet.clients.zip c.lines

/-- Every client has a line and a session, and two have one session exactly if
they have one line. -/
structure Ordered (c : Convoy) : Prop where
  length : c.lines.length = c.fleet.clients.length
  bound : ∀ p ∈ c.berths, p.1.session < c.fleet.sessions.length ∧ p.2 < c.lines.length
  same : ∀ p ∈ c.berths, ∀ q ∈ c.berths, p.1.session = q.1.session ↔ p.2 = q.2

variable {c d : Convoy}

theorem mem_berths {client : Nat} {k : Client} {l : Nat}
    (hk : c.fleet.clients[client]? = some k) (hl : c.lines[client]? = some l) :
    (k, l) ∈ c.berths :=
  List.mem_of_getElem? (List.getElem?_zip_eq_some.mpr ⟨hk, hl⟩)

namespace Ordered

theorem line (h : c.Ordered) {client : Nat} {k : Client}
    (hk : c.fleet.clients[client]? = some k) : ∃ l, c.lines[client]? = some l := by
  have hlt : client < c.lines.length := h.length ▸ (List.getElem?_eq_some_iff.mp hk).1
  exact ⟨_, List.getElem?_eq_getElem hlt⟩

theorem client (h : c.Ordered) {client l : Nat} (hl : c.lines[client]? = some l) :
    ∃ k, c.fleet.clients[client]? = some k := by
  have hlt : client < c.fleet.clients.length :=
    h.length ▸ (List.getElem?_eq_some_iff.mp hl).1
  exact ⟨_, List.getElem?_eq_getElem hlt⟩

theorem berthed (h : c.Ordered) {client : Nat} {k : Client}
    (hk : c.fleet.clients[client]? = some k) :
    ∃ s, c.fleet.sessions[k.session]? = some s := by
  obtain ⟨l, hl⟩ := h.line hk
  exact ⟨_, List.getElem?_eq_getElem (h.bound _ (mem_berths hk hl)).1⟩

/-- Two clients have one session exactly if they are of one line. -/
theorem same_iff (h : c.Ordered) {i j li lj : Nat} {ki kj : Client}
    (hi : c.fleet.clients[i]? = some ki) (hj : c.fleet.clients[j]? = some kj)
    (hli : c.lines[i]? = some li) (hlj : c.lines[j]? = some lj) :
    ki.session = kj.session ↔ li = lj :=
  h.same _ (mem_berths hi hli) _ (mem_berths hj hlj)

/-! ### What a turn does -/

theorem passage_construct (c : Convoy) (via : Option Nat) (config : Config) :
    Passage c via { c with
      fleet := c.fleet.follow (.construct config)
      lines := config.founds c.lines } := by
  cases hc : config.check with
  | ok u =>
    rw [Fleet.follow_construct hc, Config.founds_of_check hc]
    exact .founded via config
  | error fault =>
    rw [Fleet.follow_construct_refused hc, Config.founds_refused hc]
    exact .kept via c.tasks

theorem passage_act (h : c.Ordered) (client : Nat) (action : Action) (service : Service) :
    Passage c (some client) { c with
      fleet := c.fleet.follow (.act client action service)
      lines := action.lines client c.lines } := by
  cases hk : c.fleet.clients[client]? with
  | none =>
    have hlt : ¬ client < c.lines.length := by
      rw [h.length, not_lt]
      exact List.getElem?_eq_none_iff.mp hk
    have hl : action.lines client c.lines = c.lines := by
      cases action <;> simp [Action.lines, hlt]
    rw [Fleet.follow_absent hk, hl]
    exact .kept _ c.tasks
  | some k =>
    obtain ⟨l, hl⟩ := h.line hk
    have hlt : client < c.lines.length := (List.getElem?_eq_some_iff.mp hl).1
    obtain ⟨s, hs⟩ := h.berthed hk
    cases action with
    | clone =>
      rw [Fleet.follow_clone hk hs, Action.lines, hl]
      exact .cloned hk hl
    | construct config =>
      rw [Fleet.follow_act_construct hk hs, Action.lines, if_pos hlt]
      exact passage_construct c _ config
    | perform op | performBoth first second | event e | look | isAuthenticated =>
      rw [Fleet.follow_of_play rfl hk hs]
      exact .left hk _ c.tasks

/-- A write at the end of an operation, with whatever becomes of the tasks. -/
theorem passage_landing (h : c.Ordered) (client : Nat) (w : Option Session.Write)
    (tasks : List (Nat × Task)) :
    Passage c (some client) { c with fleet := c.fleet.landing client w, tasks } := by
  cases w with
  | none => exact .kept _ tasks
  | some w =>
    cases hk : c.fleet.clients[client]? with
    | none =>
      rw [Fleet.landing, Fleet.follow_absent hk]
      exact .kept _ tasks
    | some k =>
      obtain ⟨s, hs⟩ := h.berthed hk
      rw [Fleet.landing, Fleet.follow_of_play rfl hk hs]
      exact .left hk _ tasks

/-- **One turn**, whatever it is. -/
theorem passage (h : c.Ordered) (t : Turn) : Passage c (t.client? c) (c.step t) := by
  cases t with
  | stride stride =>
    cases stride with
    | construct config => exact passage_construct c none config
    | act client action service => exact h.passage_act client action service
  | start client op =>
    simp only [step, Turn.client?]
    split
    · exact .kept _ _
    · exact .kept _ c.tasks
  | receive i o =>
    simp only [step, Turn.client?]
    cases hi : c.tasks[i]? with
    | none => exact .kept _ c.tasks
    | some task =>
      obtain ⟨client, op, progress⟩ := task
      cases progress with
      | closing r w | landed r => exact .kept _ c.tasks
      | waiting flight => exact h.passage_landing client _ _
  | close i =>
    simp only [step, Turn.client?]
    cases hi : c.tasks[i]? with
    | none => exact .kept _ c.tasks
    | some task =>
      obtain ⟨client, op, progress⟩ := task
      cases progress with
      | waiting flight | landed r => exact .kept _ c.tasks
      | closing r w => exact h.passage_landing client _ _

/-! ### What it keeps -/

theorem mem_concat (h : c.Ordered) {k : Client} {l : Nat} {p : Client × Nat}
    (hp : p ∈ (c.fleet.clients ++ [k]).zip (c.lines ++ [l])) : p ∈ c.berths ∨ p = (k, l) := by
  rw [List.zip_append h.length.symm] at hp
  simpa [berths] using hp

/-- One client more, of a line whose clients have its session, and no others. -/
theorem grow (h : c.Ordered) {f : Fleet} {k : Client} {l : Nat}
    (hf : f.clients = c.fleet.clients ++ [k])
    (hs : c.fleet.sessions.length ≤ f.sessions.length) (hk : k.session < f.sessions.length)
    (hl : l ≤ c.lines.length) (hkl : ∀ p ∈ c.berths, p.1.session = k.session ↔ p.2 = l) :
    Ordered { c with fleet := f, lines := c.lines ++ [l] } := by
  have hlength : (c.lines ++ [l]).length = f.clients.length := by
    simp [hf, h.length]
  have hmem : ∀ p ∈ f.clients.zip (c.lines ++ [l]), p ∈ c.berths ∨ p = (k, l) := by
    rw [hf]
    exact fun p hp => h.mem_concat hp
  refine ⟨hlength, ?_, ?_⟩
  · intro p hp
    rcases hmem p hp with hp | rfl
    · have hb := h.bound p hp
      simp only [List.length_append, List.length_singleton]
      exact ⟨by omega, by omega⟩
    · simp only [List.length_append, List.length_singleton]
      exact ⟨hk, by omega⟩
  · intro p hp q hq
    rcases hmem p hp with hp | rfl
    · rcases hmem q hq with hq | rfl
      · exact h.same p hp q hq
      · exact hkl p hp
    · rcases hmem q hq with hq | rfl
      · rw [eq_comm, hkl q hq, eq_comm]
      · exact iff_of_true rfl rfl

theorem of_passage (h : c.Ordered) {via : Option Nat} (hd : Passage c via d) : d.Ordered := by
  cases hd with
  | kept via tasks => exact ⟨h.length, h.bound, h.same⟩
  | left hk scene tasks =>
    refine ⟨h.length, ?_, h.same⟩
    intro p hp
    rw [Fleet.leave, List.length_set]
    exact h.bound p hp
  | cloned hk hl =>
    have hmem := mem_berths hk hl
    have hb := h.bound _ hmem
    exact h.grow rfl (le_refl _) hb.1 hb.2.le (fun p hp => h.same p hp _ hmem)
  | founded via config =>
    -- The number of the session is new, and so is the number of the line.
    have hlt : ∀ p ∈ c.berths, p.1.session = c.fleet.sessions.length ↔ p.2 = c.lines.length := by
      intro p hp
      have hb := h.bound p hp
      omega
    refine h.grow rfl ?_ ?_ (le_refl _) hlt
    · simp [Fleet.found]
    · simp [Fleet.found]

theorem step (h : c.Ordered) (t : Turn) : (c.step t).Ordered := h.of_passage (h.passage t)

theorem run (h : c.Ordered) (turns : List Turn) : (c.run turns).Ordered := by
  induction turns generalizing c with
  | nil => exact h
  | cons t turns ih => exact ih (h.step t)

theorem fresh (clock : Instant) : (Convoy.fresh clock).Ordered := by
  refine ⟨rfl, ?_, ?_⟩
  · exact fun p hp => absurd hp List.not_mem_nil
  · exact fun p hp => absurd hp List.not_mem_nil

/-! ### What it leaves alone -/

/-- Clients of one line have one session. -/
theorem session?_eq (h : c.Ordered) {i j l : Nat} (hi : c.lines[i]? = some l)
    (hj : c.lines[j]? = some l) :
    ∃ s, c.fleet.session? i = some s ∧ c.fleet.session? j = some s := by
  obtain ⟨ki, hki⟩ := h.client hi
  obtain ⟨kj, hkj⟩ := h.client hj
  obtain ⟨s, hs⟩ := h.berthed hki
  have hk : ki.session = kj.session := (h.same_iff hki hkj hi hj).mpr rfl
  refine ⟨s, ?_, ?_⟩
  · rw [Fleet.session?, hki, Option.bind_some, hs]
  · rw [Fleet.session?, hkj, Option.bind_some, ← hk, hs]

/-- **What goes through a client of another line** leaves a session as it is. -/
theorem passage_session? (h : c.Ordered) {via : Option Nat} (hd : Passage c via d) {j l : Nat}
    (hj : c.lines[j]? = some l) (hv : ∀ i ∈ via, c.lines[i]? ≠ some l) :
    d.fleet.session? j = c.fleet.session? j := by
  obtain ⟨k, hk⟩ := h.client hj
  obtain ⟨s, hs⟩ := h.berthed hk
  have hjlt : j < c.fleet.clients.length := (List.getElem?_eq_some_iff.mp hk).1
  have hslt : k.session < c.fleet.sessions.length := (List.getElem?_eq_some_iff.mp hs).1
  cases hd with
  | kept via tasks => exact rfl
  | left hi scene tasks =>
    obtain ⟨l', hl'⟩ := h.line hi
    have hne : l' ≠ l := by
      rintro rfl
      exact hv _ rfl hl'
    have hsession := mt (h.same_iff hi hk hl' hj).mp hne
    simp only [Fleet.session?, Fleet.leave, hk, Option.bind_some]
    exact List.getElem?_set_ne hsession
  | cloned hi hl =>
    simp only [Fleet.session?, Fleet.clone, List.getElem?_append_left hjlt, hk, Option.bind_some]
  | founded via config =>
    simp only [Fleet.session?, Fleet.found, List.getElem?_append_left hjlt, hk, Option.bind_some,
      List.getElem?_append_left hslt]

end Ordered
end Convoy
end SignOn
