import SignOn.Fleet
import SignOn.Proofs.Interleaving

/-!
Where the tokens of a shared session come from. However the operations of its
clients, writes beside them and the clock are interleaved, every token in the
session is that of the newest write that could have put it there.

* `Operation.land_write_iff`: what an operation writes when it lands;
* `Shared.written_iff`: the moves that write, and what they write;
* `Shared.newest`: a part of the session is as the newest write that matters to
  it has left it;
* `provenance`: the access token with its expiry, the refresh token, and the
  operations that have no part in either.
-/

namespace SignOn

/-! ## What operations write -/

namespace Operation

/-- What an operation writes when it lands with its last outcome: a grant if it
can read one, or the end of the session. -/
inductive Writes : Operation → Outcome → Session.Write → Prop
  | login {c : Credentials} {body : List UInt8} {grant : Grant} :
      Json.decode Grant.reader body = .ok grant → Writes (.login c) (.ok body) (.install grant)
  | refresh {body : List UInt8} {grant : Grant} : Json.decode Grant.reader body = .ok grant →
      Writes .refresh (.ok body) (.renew grant.accessToken grant.expiresIn)
  | logout {o : Outcome} : Writes .logout o .clear
  | revoke {o : Outcome} : Writes .revoke o .clear

/-- The operations that may write to the session. -/
def Writer : Operation → Prop
  | .login _ | .refresh | .logout | .revoke => True
  | _ => False

variable {op : Operation} {o : Outcome} {w : Session.Write}

theorem Writes.writer (h : op.Writes o w) : op.Writer := by
  cases h <;> exact trivial

/-- What writes has succeeded. -/
theorem Writes.land (h : op.Writes o w) (held : Session) :
    op.land held o = (.ok .done, some w) := by
  cases h with
  | login h | refresh h =>
    simp only [Operation.land, succeed, decodeAs, h]
    rfl
  | logout | revoke => rfl

theorem land_write_iff {held : Session} : (op.land held o).2 = some w ↔ op.Writes o w := by
  constructor
  · intro h
    cases op with
    | logout =>
      cases h
      exact .logout
    | revoke =>
      cases h
      exact .revoke
    | login c =>
      cases o with
      | error e => cases h
      | ok body =>
        cases hd : Json.decode Grant.reader body with
        | ok grant =>
          rw [(Writes.login hd).land] at h
          cases h
          exact .login hd
        | error e =>
          simp only [Operation.land, succeed, decodeAs, hd] at h
          cases h
    | refresh =>
      cases o with
      | error e => cases h
      | ok body =>
        cases hd : Json.decode Grant.reader body with
        | ok grant =>
          rw [(Writes.refresh hd).land] at h
          cases h
          exact .refresh hd
        | error e =>
          simp only [Operation.land, succeed, decodeAs, hd] at h
          cases h
    | strengthen | verifyDocument | revokeDocument | revokeMachine => cases o <;> cases h
    | current | profile | roles | hasPermission | deviceList | deviceStatus | documentStatus
    | enroll | machineToken =>
      cases o with
      | error e => cases h
      | ok body =>
        simp only [Operation.land, succeed] at h
        generalize decodeAs _ _ body = read at h
        cases read <;> cases h
  · intro h
    rw [h.land]

end Operation

/-! ## What moves write -/

namespace Shared

variable {s start : Shared} {m : Move} {moves : List Move} {w : Session.Write}

/-- The moves that write: a direct write, signing off that has found no access
token, and the landing of an operation that found its token at its start. -/
inductive Lands (s : Shared) : Move → Session.Write → Prop
  | direct (w : Session.Write) : s.Lands (.event (.write w)) w
  | closing {i : Nat} :
      s.tasks[i]? = some ⟨.logout, .closing (.ok .done) .clear⟩ → s.Lands (.close i) .clear
  | landing {i : Nat} {op : Operation} {f : Flight} {o : Outcome} {w : Session.Write} :
      s.tasks[i]? = some ⟨op, .waiting f⟩ → ¬ op.Wanting f.held → f.Ends o → op.Writes o w →
      s.Lands (.receive i o) w

/-- Operations under way found their tokens, and what writes without an attempt
signs off. -/
structure Sound (s : Shared) : Prop where
  waiting : ∀ (i : Nat) (op : Operation) (f : Flight), s.tasks[i]? = some ⟨op, .waiting f⟩ →
    f.operation = op ∧ ¬ op.Wanting f.held
  closing : ∀ (i : Nat) (op : Operation) (r : Result) (w : Session.Write),
    s.tasks[i]? = some ⟨op, .closing r w⟩ → op = .logout ∧ r = .ok .done ∧ w = .clear

theorem run_sound (hs : start.tasks = []) (moves : List Move) : (start.run moves).Sound := by
  constructor
  · intro i op f h
    obtain ⟨before, config, after, n, _, _, hw, rfl⟩ := run_begun hs h
    exact ⟨rfl, hw⟩
  · intro i op r w h
    obtain ⟨hop, hr, hw, _⟩ := run_closing hs h
    exact ⟨hop, hr, hw⟩

theorem written_iff (hs : s.Sound) : s.written m = some w ↔ s.Lands m w := by
  constructor
  · intro h
    cases m with
    | start config op => cases h
    | receive i o =>
      simp only [written] at h
      split at h
      · next op f hi =>
        obtain ⟨hop, hheld⟩ := hs.waiting i op f hi
        by_cases ho : f.Ends o
        · rw [Flight.receive_of_ends ho] at h
          have hland : (op.land f.held o).2 = some w := by
            rw [← hop]
            exact h
          exact .landing hi hheld ho (Operation.land_write_iff.mp hland)
        · rw [Flight.receive_of_not_ends ho] at h
          cases h
      · cases h
    | close i =>
      simp only [written] at h
      split at h
      · next op r v hi =>
        obtain ⟨rfl, rfl, rfl⟩ := hs.closing i op r v hi
        cases h
        exact .closing hi
      · cases h
    | event e =>
      cases e with
      | write _ =>
        cases h
        exact .direct _
      | setClock now => cases h
  · intro h
    cases h with
    | direct => rfl
    | closing hi => simp only [written, hi]
    | landing hi _ ho hw =>
      obtain ⟨hop, _⟩ := hs.waiting _ _ _ hi
      simp only [written, hi, Flight.receive_of_ends ho]
      exact Operation.land_write_iff.mpr (hop ▸ hw)

/-- **What an operation writes, it writes by landing with success.** -/
theorem Lands.done (h : s.Lands m w) (hs : s.Sound) {i : Nat} (hi : s.task? m = some i) :
    ∃ op, op.Writer ∧ (s.step m).tasks[i]? = some ⟨op, .landed (.ok .done)⟩ := by
  cases h with
  | direct => cases hi
  | closing hj =>
    cases hi
    have hlen := (List.getElem?_eq_some_iff.mp hj).1
    refine ⟨.logout, trivial, ?_⟩
    simp only [step, hj, List.getElem?_set_self hlen]
  | landing hj _ ho hw =>
    cases hi
    obtain ⟨rfl, _⟩ := hs.waiting _ _ _ hj
    refine ⟨_, hw.writer, ?_⟩
    have hlen := (List.getElem?_eq_some_iff.mp hj).1
    simp only [step, hj, Flight.receive_of_ends ho, List.getElem?_set_self hlen, Stage.progress,
      Flight.land, hw.land]

/-! ## The newest write -/

/-- No write of the kind `P` lands on the way. -/
def Quiet (P : Session.Write → Prop) : Shared → List Move → Prop
  | _, [] => True
  | s, m :: rest => (∀ w, s.Lands m w → ¬ P w) ∧ Quiet P (s.step m) rest

theorem Quiet.concat {P : Session.Write → Prop} (h : Quiet P s moves)
    (hm : ∀ w, (s.run moves).Lands m w → ¬ P w) : Quiet P s (moves ++ [m]) := by
  induction moves generalizing s with
  | nil => exact ⟨hm, trivial⟩
  | cons m' moves ih => exact ⟨h.1, ih h.2 hm⟩

/-- The newest write of the kind `P` is `w`, and it landed when the clock showed
`moment`. -/
def Newest (P : Session.Write → Prop) (start : Shared) (moves : List Move) (w : Session.Write)
    (moment : Instant) : Prop :=
  ∃ before m after, moves = before ++ m :: after ∧ (start.run before).Lands m w ∧ P w ∧
    moment = (start.run before).clock ∧ Quiet P (start.run (before ++ [m])) after

/-- **The newest write counts.** A part of the session that writes of the kind
`P` set, and others leave alone, is as the newest of them has set it, or as it
was at first. -/
theorem newest {P : Session.Write → Prop} {α : Type} (part : Session → α)
    {value : Session.Write → Instant → α}
    (sets : ∀ (s : Session) now w, P w → part (s.write now w) = value w now)
    (leaves : ∀ (s : Session) now w, ¬ P w → part (s.write now w) = part s)
    (hs : start.tasks = []) (moves : List Move) :
    (Quiet P start moves ∧ part (start.run moves).session = part start.session) ∨
      ∃ w moment, Newest P start moves w moment ∧
        part (start.run moves).session = value w moment := by
  induction moves using List.reverseRecOn with
  | nil => exact Or.inl ⟨trivial, rfl⟩
  | append_singleton moves m ih =>
    have hsound := run_sound hs moves
    have hstep := (start.run moves).step_session m
    rw [run_concat]
    -- Either the last move makes the newest write, or that is still the one before.
    by_cases hw : ∃ w, (start.run moves).Lands m w ∧ P w
    · obtain ⟨w, hl, hp⟩ := hw
      refine Or.inr ⟨w, _, ⟨moves, m, [], rfl, hl, hp, rfl, trivial⟩, ?_⟩
      rw [hstep, (written_iff hsound).mpr hl]
      exact sets _ _ w hp
    · have hquiet : ∀ w, (start.run moves).Lands m w → ¬ P w := fun w hl hp => hw ⟨w, hl, hp⟩
      have hpart : part ((start.run moves).step m).session = part (start.run moves).session := by
        rw [hstep]
        cases hv : (start.run moves).written m with
        | none => rfl
        | some v => exact leaves _ _ v (hquiet v ((written_iff hsound).mp hv))
      rw [hpart]
      obtain ⟨hq, he⟩ | ⟨w, moment, ⟨before, n, after, rfl, hl, hp, hm, hq⟩, he⟩ := ih
      · exact Or.inl ⟨hq.concat hquiet, he⟩
      · refine Or.inr ⟨w, moment, ⟨before, n, after ++ [m], by simp, hl, hp, hm, ?_⟩, he⟩
        refine hq.concat ?_
        rw [← run_append]
        simpa using hquiet

end Shared

/-! ## The tokens -/

namespace Session

namespace Write

/-- The access token that a write puts into the session, and how long it lasts. -/
def access? : Write → Option (String × UInt64)
  | .install grant => (nonEmpty? grant.accessToken).map (·, grant.expiresIn)
  | .renew token lifetime => (nonEmpty? token).map (·, lifetime)
  | .clear => none

/-- The refresh token that a write puts into the session. -/
def refresh? : Write → Option String
  | .install grant => grant.refreshToken.bind nonEmpty?
  | .renew _ _ | .clear => none

/-- A new access token leaves the refresh token as it is; other writes replace it. -/
def Replaces : Write → Prop
  | .install _ | .clear => True
  | .renew _ _ => False

end Write

theorem write_access (s : Session) (now : Instant) (w : Write) :
    ((s.write now w).accessToken, (s.write now w).expiresAt) =
      (w.access?.map (·.1), w.access?.map fun access => now.expiry access.2) := by
  cases w with
  | install grant => cases h : nonEmpty? grant.accessToken <;> simp [write, Write.access?, h]
  | renew token lifetime => cases h : nonEmpty? token <;> simp [write, Write.access?, h]
  | clear => rfl

theorem write_refresh (s : Session) (now : Instant) {w : Write} (h : w.Replaces) :
    (s.write now w).refreshToken = w.refresh? := by
  cases w with
  | renew => exact h.elim
  | install | clear => rfl

theorem write_keeps (s : Session) (now : Instant) {w : Write} (h : ¬ w.Replaces) :
    (s.write now w).refreshToken = s.refreshToken := by
  cases w with
  | renew => rfl
  | install | clear => exact absurd trivial h

end Session

namespace Shared

/-- A session as a client with the given settings finds it at first. -/
def fresh (clock : Instant) (config : Config) : Shared :=
  { session := Fleet.initial { clock } config, clock }

/-- Every token of the session is accounted for. -/
structure Accounted (config : Config) (start : Shared) (moves : List Move) : Prop where
  /-- At first there is the token of the settings, if they have one. -/
  initially : (config.accessToken = none → start.session = .empty) ∧
    ∀ token, config.accessToken = some token → start.session = .seeded start.clock token
  /-- The access token and its expiry come from one write, the newest. -/
  access : (Quiet (fun _ => True) start moves ∧
      (start.run moves).session.accessToken = start.session.accessToken ∧
      (start.run moves).session.expiresAt = start.session.expiresAt) ∨
    ∃ w moment, Newest (fun _ => True) start moves w moment ∧
      (start.run moves).session.accessToken = w.access?.map (·.1) ∧
      (start.run moves).session.expiresAt = w.access?.map fun access => moment.expiry access.2
  /-- The refresh token comes from the newest write but for renewals. -/
  refresh : (Quiet Session.Write.Replaces start moves ∧
      (start.run moves).session.refreshToken = start.session.refreshToken) ∨
    ∃ w moment, Newest Session.Write.Replaces start moves w moment ∧
      (start.run moves).session.refreshToken = w.refresh?
  /-- An operation that is no writer, or has not landed with success, has left
  the session alone in all its moves. -/
  idle : ∀ i op p, (start.run moves).tasks[i]? = some ⟨op, p⟩ →
    (¬ op.Writer ∨ ∀ a, p ≠ .landed (.ok a)) →
    ∀ before m after, moves = before ++ m :: after → (start.run before).task? m = some i →
      (start.run (before ++ [m])).session = (start.run before).session
  begun : ∀ i op f, (start.run moves).tasks[i]? = some ⟨op, .waiting f⟩ → start.Begun moves i op f
  bare : ∀ i op r w, (start.run moves).tasks[i]? = some ⟨op, .closing r w⟩ →
    op = .logout ∧ w = .clear ∧ start.Bare moves i

/-- A move that writes shows in the end: its operation stands there as a writer
that has landed with success. -/
theorem Lands.seen {start : Shared} (hs : start.tasks = []) {before : List Move} {m : Move}
    {w : Session.Write} {i : Nat} (after : List Move) (h : (start.run before).Lands m w)
    (hi : (start.run before).task? m = some i) :
    ∃ op, op.Writer ∧
      (start.run (before ++ m :: after)).tasks[i]? = some ⟨op, .landed (.ok .done)⟩ := by
  obtain ⟨op, hop, ht⟩ := h.done (run_sound hs before) hi
  refine ⟨op, hop, ?_⟩
  rw [run_append]
  exact run_landed ht after

end Shared

/-- **Provenance.** In every state that operations, direct writes and the clock
can bring about together, the session holds the access token of the newest
write with an expiry counted from that write, and the refresh token of the
newest write that had one to give or ended the session. -/
theorem provenance (clock : Instant) (config : Config) (moves : List Move) :
    Shared.Accounted config (Shared.fresh clock config) moves := by
  have hs : (Shared.fresh clock config).tasks = [] := rfl
  refine ⟨⟨?_, ?_⟩, ?_, ?_, ?_, fun i op f h => Shared.run_begun hs h, ?_⟩
  · intro ht
    simp [Shared.fresh, Fleet.initial, ht]
  · intro token ht
    simp [Shared.fresh, Fleet.initial, ht]
  · obtain ⟨hq, he⟩ | ⟨w, moment, hn, he⟩ := Shared.newest
      (fun s => (s.accessToken, s.expiresAt)) (P := fun _ => True)
      (fun s now w _ => s.write_access now w) (fun _ _ _ h => absurd trivial h) hs moves
    · exact Or.inl ⟨hq, congrArg Prod.fst he, congrArg Prod.snd he⟩
    · exact Or.inr ⟨w, moment, hn, congrArg Prod.fst he, congrArg Prod.snd he⟩
  · exact Shared.newest (·.refreshToken) (fun s now w h => s.write_refresh now h)
      (fun s now w h => s.write_keeps now h) hs moves
  · rintro i op p ht hop before m after rfl hi
    rw [Shared.run_concat, Shared.step_session]
    cases hw : (Shared.run _ before).written m with
    | none => rfl
    | some w =>
      -- A write would have landed its operation with success, for good.
      have hl := (Shared.written_iff (Shared.run_sound hs before)).mp hw
      obtain ⟨op', hop', ht'⟩ := Shared.Lands.seen hs after hl hi
      rw [ht] at ht'
      cases ht'
      rcases hop with h | h
      · exact absurd hop' h
      · exact absurd rfl (h .done)
  · intro i op r w h
    obtain ⟨hop, _, hw, hbare⟩ := Shared.run_closing hs h
    exact ⟨hop, hw, hbare⟩

end SignOn
