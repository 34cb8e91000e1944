import SignOn.Proofs.Lineage

/-!
Clients of different lines do not touch one another.

* `Fleet.act_leave`: an action does not notice what another client left in a
  session that is not its own;
* `Fleet.act_exchange`: two such actions may change places;
* `sessions_independent`: after any turns, clients of one line see one session,
  and those of other lines are out of its reach.
-/

namespace SignOn

/-- Clients may become more by it. -/
def Action.Adds : Action → Prop
  | .clone | .construct _ => True
  | _ => False

theorem Action.play_of_not_adds {action : Action} (h : ¬ action.Adds) (client : Nat) :
    ∃ play, action.play client = some play := by
  cases action with
  | clone | construct config => exact absurd trivial h
  | perform op | performBoth first second | event e | look | isAuthenticated => exact ⟨_, rfl⟩

namespace Fleet

variable {f : Fleet} {i j : Nat} {k m : Client} {s t : Session} {a b : Action} {v w : Service}

/-! ## Two actions in a row -/

theorem leave_comm {x y : Scene} (hne : k.session ≠ m.session) (hx : x.clock = f.clock)
    (hy : y.clock = f.clock) : (f.leave k x).leave m y = (f.leave m y).leave k x := by
  simp only [leave, hx, hy, List.set_comm _ _ hne]

/-- What was left in another session, at the same moment, makes no difference. -/
theorem act_leave {play : Config → Scene → Report × Scene} (hp : b.play j = some play)
    (hj : f.clients[j]? = some m) (ht : f.sessions[m.session]? = some t) {x : Scene}
    (hne : k.session ≠ m.session) (hx : x.clock = f.clock) :
    (f.leave k x).act j b w = some ((play m.config (f.scene t w)).1,
      (f.leave k x).leave m (play m.config (f.scene t w)).2) := by
  have hscene : (f.leave k x).scene t w = f.scene t w := by
    rw [scene, scene, leave, hx]
  have hj' : (f.leave k x).clients[j]? = some m := hj
  have ht' : (f.leave k x).sessions[m.session]? = some t := by
    rw [leave, List.getElem?_set_ne hne]
    exact ht
  rw [← hscene]
  exact act_of_play hp hj' ht'

/-- **Actions on different sessions may change places**, unless one of them
moves the clock. -/
theorem act_exchange (hi : f.clients[i]? = some k) (hs : f.sessions[k.session]? = some s)
    (hj : f.clients[j]? = some m) (ht : f.sessions[m.session]? = some t)
    (hne : k.session ≠ m.session) (ha : ¬ a.Adds) (hb : ¬ b.Adds) :
    ∃ ra fa rb fb, f.act i a v = some (ra, fa) ∧ f.act j b w = some (rb, fb) ∧
      (fa.clock = f.clock → fb.clock = f.clock →
        ∃ g, fa.act j b w = some (rb, g) ∧ fb.act i a v = some (ra, g)) := by
  obtain ⟨pa, hpa⟩ := Action.play_of_not_adds ha i
  obtain ⟨pb, hpb⟩ := Action.play_of_not_adds hb j
  refine ⟨_, _, _, _, act_of_play hpa hi hs, act_of_play hpb hj ht, ?_⟩
  intro hx hy
  refine ⟨_, act_leave hpb hj ht hne hx, ?_⟩
  rw [act_leave hpa hi hs hne.symm hy, leave_comm hne hx hy]

end Fleet

/-! ## Clients -/

/-- **Independence.** What a turn may reach, and what it leaves alone. -/
structure Convoy.Independent (c : Convoy) : Prop where
  /-- Every client is of some line. -/
  lined : c.lines.length = c.fleet.clients.length
  /-- Clients of one line see one session. -/
  shared : ∀ i j l, c.lines[i]? = some l → c.lines[j]? = some l →
    ∃ s, c.fleet.session? i = some s ∧ c.fleet.session? j = some s
  /-- A turn leaves the session of a client alone, unless it goes through a
  client of the same line. -/
  apart : ∀ t j l, c.lines[j]? = some l → (∀ i ∈ t.client? c, c.lines[i]? ≠ some l) →
    (c.step t).fleet.session? j = c.fleet.session? j
  /-- What is done in a row with clients of different lines, while the clock
  stands, may change places: both reports are the same, and all that comes later. -/
  exchange : ∀ i j li lj, c.lines[i]? = some li → c.lines[j]? = some lj → li ≠ lj →
    ∀ a b, ¬ a.Adds → ¬ b.Adds → ∀ v w, ∃ ra fa rb fb,
      c.fleet.act i a v = some (ra, fa) ∧ c.fleet.act j b w = some (rb, fb) ∧
      (fa.clock = c.fleet.clock → fb.clock = c.fleet.clock →
        (∃ g, fa.act j b w = some (rb, g) ∧ fb.act i a v = some (ra, g)) ∧
        ∀ later, c.run (.stride (.act i a v) :: .stride (.act j b w) :: later) =
          c.run (.stride (.act j b w) :: .stride (.act i a v) :: later))
  /-- Unacceptable settings change nothing. -/
  refused : ∀ config fault, config.check = .error fault →
    c.fleet.construct config = .error fault ∧ c.step (.stride (.construct config)) = c ∧
      ∀ i v, c.step (.stride (.act i (.construct config) v)) = c

namespace Convoy

variable {c : Convoy}

theorem step_of_act {i : Nat} {a : Action} {v : Service} {r : Report} {f : Fleet}
    (ha : ¬ a.Adds) (h : c.fleet.act i a v = some (r, f)) :
    c.step (.stride (.act i a v)) = { c with fleet := f } := by
  have hl : a.lines i c.lines = c.lines := by
    cases a with
    | clone | construct config => exact absurd trivial ha
    | perform op | performBoth first second | event e | look | isAuthenticated => exact rfl
  simp only [step, Stride.lines, Fleet.follow, h, hl]

theorem step_refused {config : Config} {fault : Misconfiguration}
    (h : config.check = .error fault) : c.step (.stride (.construct config)) = c := by
  rw [step, Fleet.follow_construct_refused h, Stride.lines, Config.founds_refused h]

namespace Ordered

theorem step_act_refused (ho : c.Ordered) {config : Config} {fault : Misconfiguration}
    (h : config.check = .error fault) (i : Nat) (v : Service) :
    c.step (.stride (.act i (.construct config) v)) = c := by
  have hl : (Action.construct config).lines i c.lines = c.lines := by
    rw [Action.lines, Config.founds_refused h, ite_self]
  have hf : c.fleet.follow (.act i (.construct config) v) = c.fleet := by
    cases hk : c.fleet.clients[i]? with
    | none => exact Fleet.follow_absent hk _ v
    | some k =>
      obtain ⟨s, hs⟩ := ho.berthed hk
      rw [Fleet.follow_act_construct hk hs, Fleet.follow_construct_refused h]
  rw [Convoy.step, Stride.lines, hl, hf]

theorem independent (h : c.Ordered) : c.Independent where
  lined := h.length
  shared _ _ _ hi hj := h.session?_eq hi hj
  apart t _ _ hj hv := h.passage_session? (h.passage t) hj hv
  exchange := by
    intro i j li lj hi hj hne a b ha hb v w
    obtain ⟨k, hk⟩ := h.client hi
    obtain ⟨m, hm⟩ := h.client hj
    obtain ⟨s, hs⟩ := h.berthed hk
    obtain ⟨t, ht⟩ := h.berthed hm
    have hsession : k.session ≠ m.session := mt (h.same_iff hk hm hi hj).mp hne
    obtain ⟨ra, fa, rb, fb, hfa, hfb, hx⟩ := Fleet.act_exchange hk hs hm ht hsession ha hb
    refine ⟨ra, fa, rb, fb, hfa, hfb, ?_⟩
    intro hca hcb
    obtain ⟨g, hga, hgb⟩ := hx hca hcb
    refine ⟨⟨g, hga, hgb⟩, ?_⟩
    intro later
    simp only [Convoy.run, List.foldl_cons]
    rw [step_of_act ha hfa, step_of_act hb hfb, step_of_act hb hga, step_of_act ha hgb]
  refused _ _ hc := ⟨Fleet.construct_refused hc, step_refused hc, h.step_act_refused hc⟩

end Ordered
end Convoy

/-- **Sessions of different clients are independent.** After any number of
turns, in which clients are set up and cloned and operations are under way on
any of them, under whatever replies: clones share the session of their original,
and nothing reaches a session but through its own line. -/
theorem sessions_independent (clock : Instant) (turns : List Turn) :
    ((Convoy.fresh clock).run turns).Independent :=
  ((Convoy.Ordered.fresh clock).run turns).independent

/-- Two clients are set up, and the first is cloned. The clone signs on; before
its reply comes, the session of the second client is cleared. The first two
sessions differ at the end, and the clone shares the first. -/
theorem sessions_independent_clone :
    let config (token : String) : Config :=
      { endpoint := "https://id.example", clientId := "app", accessToken := some token }
    let body := "\x7b\"accessToken\":\"c\",\"expiresIn\":60,\"refreshToken\":\"r\"\x7d"
    let idle : Service := { reachable := true, replies := [] }
    let turns : List Turn := [.stride (.construct (config "a")), .stride (.construct (config "b")),
      .stride (.act 0 .clone idle), .start 2 (.login ⟨"u@x.com", "p", none⟩),
      .stride (.act 1 (.event (.write .clear)) idle), .receive 0 (.ok (Utf8.encode body))]
    let c := (Convoy.fresh ⟨0, 0⟩).run turns
    c.lines = [0, 1, 0] ∧ c.fleet.session? 0 = some ⟨some "c", some ⟨60, 0⟩, some "r"⟩ ∧
      c.fleet.session? 1 = some .empty ∧ c.fleet.session? 2 = c.fleet.session? 0 ∧
      c.Independent := by
  intro config body idle turns c
  have hl : c.lines = [0, 1, 0] := by decide +kernel
  have h0 : c.fleet.session? 0 = some ⟨some "c", some ⟨60, 0⟩, some "r"⟩ := by decide +kernel
  have h1 : c.fleet.session? 1 = some .empty := by decide +kernel
  have h2 : c.fleet.session? 2 = c.fleet.session? 0 := by decide +kernel
  exact ⟨hl, h0, h1, h2, sessions_independent ⟨0, 0⟩ turns⟩

end SignOn
