import SignOn.Proofs.Provenance

/-!
When an access token runs out: at the end of its lifetime, counted from the moment at
which it was put into the session, or at the end of the calendar if that comes first.

* `Instant.le_iff`: the order of moments is that of their nanoseconds;
* `Instant.StepsExact`: no step of the computation wraps, and it gives up only where the
  calendar ends;
* `Instant.expiry_totalNanos`: the moment that is computed;
* `Shared.run_quiet`: a session stays as it is until the next write;
* `expiry_exact`: the expiry of the token that a session holds, and what the session
  tells of it at any moment.
-/

namespace SignOn

namespace Instant

/-! ## Moments in nanoseconds -/

/-- The first moment of the calendar. -/
def least : Instant := ⟨-8334601228800, Nanos.within 0⟩

/-- A moment of the calendar. -/
def Representable (t : Instant) : Prop := least ≤ t ∧ t ≤ greatest

instance (t : Instant) : Decidable t.Representable := inferInstanceAs (Decidable (_ ∧ _))

/-- All nanoseconds from 1970, either way. -/
def totalNanos (t : Instant) : Int := t.seconds * 1000000000 + t.nanos

theorem le_iff {a b : Instant} : a ≤ b ↔ a.totalNanos ≤ b.totalNanos := by
  have ha : a.nanos.val < 1000000000 := a.nanos.isLt
  have hb : b.nanos.val < 1000000000 := b.nanos.isLt
  show a.seconds < b.seconds ∨ (a.seconds = b.seconds ∧ a.nanos ≤ b.nanos) ↔ _
  rw [Fin.le_def, totalNanos, totalNanos]
  omega

theorem totalNanos_inj {a b : Instant} (h : a.totalNanos = b.totalNanos) : a = b := by
  obtain ⟨s, n⟩ := a
  obtain ⟨t, m⟩ := b
  have hn : n.val < 1000000000 := n.isLt
  have hm : m.val < 1000000000 := m.isLt
  simp only [totalNanos] at h
  have hs : s = t := by omega
  have hnm : n = m := Fin.ext (by omega)
  rw [hs, hnm]

theorem least_totalNanos : least.totalNanos = -8334601228800000000000 := by decide

theorem greatest_totalNanos : greatest.totalNanos = 8210266876799999999999 := by decide

theorem longestSpan_eq : longestSpan = 9223372036854775 := by decide

/-! ## The steps to an expiry -/

theorem signed?_eq_some_iff {lifetime : UInt64} {n : Int} :
    signed? lifetime = some n ↔ n = lifetime.toNat ∧ n ≤ Int64.maxValue.toInt := by
  have hmax : Int64.maxValue.toInt = 9223372036854775807 := by decide
  have hhalf : UInt64.size / 2 = 9223372036854775808 := by decide
  rw [signed?, hmax, hhalf]
  split
  · rw [Option.some.injEq]
    omega
  · simp only [reduceCtorEq, false_iff]
    omega

theorem span?_eq_some_iff {n m : Int} :
    span? n = some m ↔ m = n ∧ m.natAbs ≤ longestSpan := by
  rw [span?]
  split
  · rw [Option.some.injEq]
    omega
  · simp only [reduceCtorEq, false_iff]
    omega

theorem plus?_eq_some_iff {t u : Instant} {n : Int} :
    t.plus? n = some u ↔ u.totalNanos = t.totalNanos + n * 1000000000 ∧ u ≤ greatest := by
  have hmoved : totalNanos { t with seconds := t.seconds + n } = t.totalNanos + n * 1000000000 := by
    simp only [totalNanos]
    omega
  simp only [plus?]
  split
  · next hle =>
    rw [Option.some.injEq]
    constructor
    · rintro rfl
      exact ⟨hmoved, hle⟩
    · rintro ⟨hu, _⟩
      exact totalNanos_inj (hmoved.trans hu.symm)
  · next hgt =>
    simp only [reduceCtorEq, false_iff]
    rintro ⟨hu, hle⟩
    rw [← hmoved] at hu
    exact hgt (totalNanos_inj hu ▸ hle)

/-- The end of a lifetime, if every step on the way to it can be taken. -/
def ending? (t : Instant) (lifetime : UInt64) : Option Instant :=
  ((signed? lifetime).bind span?).bind t.plus?

/-- **No step wraps.** The lifetime as a signed number, as a span that is kept to the
millisecond, and the moment that lies so far ahead are exact wherever there are any; and
all of them are there unless the lifetime passes the end of the calendar. -/
structure StepsExact (t : Instant) (lifetime : UInt64) : Prop where
  signed : ∀ n, signed? lifetime = some n → n = lifetime.toNat ∧ n ≤ Int64.maxValue.toInt
  span : ∀ n m, span? n = some m →
    m = n ∧ Int64.minValue.toInt ≤ m * 1000 ∧ m * 1000 ≤ Int64.maxValue.toInt
  moved : ∀ n u, t.plus? n = some u →
    u.totalNanos = t.totalNanos + n * 1000000000 ∧ u ≤ greatest
  stops : t.ending? lifetime = none ↔
    greatest.totalNanos < t.totalNanos + lifetime.toNat * 1000000000

/-- The two bounds of the steps before the last one lie beyond the calendar, from
wherever in the calendar one starts. -/
theorem ending?_eq_some_iff {t u : Instant} (ht : t.Representable) {lifetime : UInt64} :
    t.ending? lifetime = some u ↔
      u.totalNanos = t.totalNanos + lifetime.toNat * 1000000000 ∧ u ≤ greatest := by
  have hmax : Int64.maxValue.toInt = 9223372036854775807 := by decide
  have hleast := le_iff.mp ht.1
  rw [least_totalNanos] at hleast
  simp only [ending?, Option.bind_eq_some_iff, signed?_eq_some_iff, span?_eq_some_iff,
    plus?_eq_some_iff, hmax, longestSpan_eq]
  constructor
  · rintro ⟨_, ⟨_, ⟨rfl, _⟩, rfl, _⟩, hu⟩
    exact hu
  · rintro ⟨hu, hle⟩
    have hgreatest := le_iff.mp hle
    rw [greatest_totalNanos] at hgreatest
    exact ⟨lifetime.toNat, ⟨lifetime.toNat, ⟨rfl, by omega⟩, rfl, by omega⟩, hu, hle⟩

theorem ending?_eq_none_iff {t : Instant} (ht : t.Representable) {lifetime : UInt64} :
    t.ending? lifetime = none ↔
      greatest.totalNanos < t.totalNanos + lifetime.toNat * 1000000000 := by
  constructor
  · intro hnone
    apply Int.lt_of_not_ge
    intro hle
    -- the moment so far ahead has the nanoseconds of `t`
    let u : Instant := { t with seconds := t.seconds + lifetime.toNat }
    have hu : u.totalNanos = t.totalNanos + lifetime.toNat * 1000000000 := by
      simp only [u, totalNanos]
      omega
    have hsome := (ending?_eq_some_iff ht).mpr ⟨hu, le_iff.mpr (hu ▸ hle)⟩
    rw [hnone] at hsome
    cases hsome
  · intro hlt
    apply Option.eq_none_iff_forall_ne_some.mpr
    intro u hu
    obtain ⟨htotal, hle⟩ := (ending?_eq_some_iff ht).mp hu
    have hgreatest := le_iff.mp hle
    omega

theorem stepsExact {t : Instant} (ht : t.Representable) (lifetime : UInt64) :
    t.StepsExact lifetime := by
  refine ⟨fun n => signed?_eq_some_iff.mp, ?_, fun n u => plus?_eq_some_iff.mp,
    ending?_eq_none_iff ht⟩
  intro n m h
  obtain ⟨rfl, hm⟩ := span?_eq_some_iff.mp h
  have hmax : Int64.maxValue.toInt = 9223372036854775807 := by decide
  have hmin : Int64.minValue.toInt = -9223372036854775808 := by decide
  rw [longestSpan_eq] at hm
  omega

/-- **The expiry** is the exact sum or the greatest moment, whichever comes first. -/
theorem expiry_totalNanos {t : Instant} (ht : t.Representable) (lifetime : UInt64) :
    (t.expiry lifetime).totalNanos =
      min (t.totalNanos + lifetime.toNat * 1000000000) greatest.totalNanos := by
  have hexpiry : t.expiry lifetime = (t.ending? lifetime).getD greatest := rfl
  rw [hexpiry]
  cases h : t.ending? lifetime with
  | some u =>
    obtain ⟨hu, hle⟩ := (ending?_eq_some_iff ht).mp h
    have hgreatest := le_iff.mp hle
    rw [Option.getD_some]
    omega
  | none =>
    have hlt := (ending?_eq_none_iff ht).mp h
    rw [Option.getD_none]
    omega

/-- Until it reaches the end of the calendar, an expiry keeps the nanoseconds. -/
theorem expiry_nanos {t : Instant} (ht : t.Representable) {lifetime : UInt64}
    (h : t.totalNanos + lifetime.toNat * 1000000000 ≤ greatest.totalNanos) :
    (t.expiry lifetime).nanos = t.nanos := by
  have hexact := expiry_totalNanos ht lifetime
  rw [Int.min_eq_left h] at hexact
  have hu : (t.expiry lifetime).nanos.val < 1000000000 := (t.expiry lifetime).nanos.isLt
  have hn : t.nanos.val < 1000000000 := t.nanos.isLt
  simp only [totalNanos] at hexact
  exact Fin.ext (by omega)

theorem expiry_mono {t t' : Instant} (ht : t.Representable) (ht' : t'.Representable)
    {lifetime lifetime' : UInt64} (h : t ≤ t') (hl : lifetime ≤ lifetime') :
    t.expiry lifetime ≤ t'.expiry lifetime' := by
  have hstart := le_iff.mp h
  have hlength := UInt64.le_iff_toNat_le.mp hl
  rw [le_iff, expiry_totalNanos ht, expiry_totalNanos ht']
  omega

end Instant

/-! ## Sessions -/

theorem Session.isExpired_iff {s : Session} {token : String} {t : Instant}
    (ht : s.accessToken = some token) (he : s.expiresAt = some t) (now : Instant) :
    s.isExpired now ↔ t ≤ now := by
  simp [isExpired, ht, he]

namespace Shared

/-- **Until the next write** a session stays as it is, whatever else goes on. -/
theorem run_quiet {start : Shared} (hs : start.tasks = []) (before : List Move) {after : List Move}
    (h : Quiet (fun _ => True) (start.run before) after) :
    (start.run (before ++ after)).session = (start.run before).session := by
  induction after generalizing before with
  | nil => rw [List.append_nil]
  | cons m after ih =>
    obtain ⟨hm, hrest⟩ := h
    have hnone : (start.run before).written m = none := by
      apply Option.eq_none_iff_forall_ne_some.mpr
      intro w hw
      exact hm w ((written_iff (run_sound hs before)).mp hw) trivial
    have hstep : (start.run (before ++ [m])).session = (start.run before).session := by
      rw [run_concat, step_session, hnone]
      rfl
    have hall := ih (before ++ [m]) (by rwa [run_concat])
    rw [List.append_assoc, List.singleton_append] at hall
    rw [hall, hstep]

/-- The access token was put into the session at the moment `t`, for so many seconds, and
nothing was written since: the client was set up with it, or it came with the newest write. -/
inductive Installed (clock : Instant) (config : Config) (moves : List Move) (token : String) :
    Instant → UInt64 → Prop
  | seeded : config.accessToken = some token → token ≠ "" →
      Quiet (fun _ => True) (fresh clock config) moves →
      Installed clock config moves token clock Session.seededLifetime
  | written {w : Session.Write} {t : Instant} {lifetime : UInt64} :
      Newest (fun _ => True) (fresh clock config) moves w t → w.access? = some (token, lifetime) →
      Installed clock config moves token t lifetime

theorem Installed.session {clock : Instant} {config : Config} {moves : List Move} {token : String}
    {t : Instant} {lifetime : UInt64} (h : Installed clock config moves token t lifetime) :
    ((fresh clock config).run moves).session.accessToken = some token ∧
      ((fresh clock config).run moves).session.expiresAt = some (t.expiry lifetime) := by
  have hs : (fresh clock config).tasks = [] := rfl
  cases h with
  | seeded htoken hne hquiet =>
    have hkept := run_quiet hs [] hquiet
    rw [List.nil_append] at hkept
    have hfirst : (fresh clock config).session = .seeded clock token := by
      simp [fresh, Fleet.initial, htoken]
    have hrun : ((fresh clock config).run []).session = .seeded clock token := hfirst
    rw [hkept, hrun]
    simp [Session.seeded, Session.write, nonEmpty_of_ne hne]
  | @written w t lifetime hnewest haccess =>
    obtain ⟨before, m, after, rfl, hlands, _, rfl, hquiet⟩ := hnewest
    have hkept := run_quiet hs _ hquiet
    rw [List.append_assoc, List.singleton_append] at hkept
    let s := (fresh clock config).run before
    obtain ⟨htoken, hexpiry⟩ := Prod.mk.inj (s.session.write_access s.clock w)
    rw [haccess] at htoken hexpiry
    rw [hkept, run_concat, step_session, (written_iff (run_sound hs before)).mpr hlands]
    exact ⟨htoken, hexpiry⟩

end Shared

/-- **The expiry of a token.** A token that is put into a session at a moment of the
calendar runs out after exactly its lifetime, or at the last moment of the calendar if
that comes first, and no step of the computation wraps. Until the next write the session
counts as expired from that moment on and at no moment before it. Hence a token without a
lifetime is expired at once, a later start or a longer lifetime never brings the expiry
forward, and a token that lasts to the end of the calendar is expired at no other moment. -/
theorem expiry_exact {clock : Instant} {config : Config} {moves : List Move} {token : String}
    {t : Instant} {lifetime : UInt64}
    (h : Shared.Installed clock config moves token t lifetime) (ht : t.Representable) :
    let s := ((Shared.fresh clock config).run moves).session
    let u := t.expiry lifetime
    (s.accessToken = some token ∧ s.expiresAt = some u) ∧
    u.totalNanos =
      min (t.totalNanos + lifetime.toNat * 1000000000) Instant.greatest.totalNanos ∧
    (t.totalNanos + lifetime.toNat * 1000000000 ≤ Instant.greatest.totalNanos →
      u.nanos = t.nanos) ∧
    t.StepsExact lifetime ∧
    (∀ now, s.isExpired now ↔ u ≤ now) ∧
    (lifetime = 0 → s.isExpired t) ∧
    (∀ t' lifetime', t'.Representable → t ≤ t' → lifetime ≤ lifetime' →
      u ≤ t'.expiry lifetime') ∧
    (∀ now later, now ≤ later → s.isExpired now → s.isExpired later) ∧
    (u = Instant.greatest → ∀ now, now.Representable → s.isExpired now →
      now = Instant.greatest) := by
  intro s u
  obtain ⟨htoken, hexpiry⟩ := h.session
  have hexact : u.totalNanos =
      min (t.totalNanos + lifetime.toNat * 1000000000) Instant.greatest.totalNanos :=
    Instant.expiry_totalNanos ht lifetime
  have hexpired : ∀ now, s.isExpired now ↔ u ≤ now := Session.isExpired_iff htoken hexpiry
  refine ⟨⟨htoken, hexpiry⟩, hexact, Instant.expiry_nanos ht, Instant.stepsExact ht lifetime,
    hexpired, ?_, ?_, ?_, ?_⟩
  · rintro rfl
    rw [hexpired, Instant.le_iff, hexact]
    have hzero : (0 : UInt64).toNat = 0 := rfl
    omega
  · intro t' lifetime' ht' hle hl
    exact Instant.expiry_mono ht ht' hle hl
  · intro now later hle hnow
    rw [hexpired, Instant.le_iff] at hnow ⊢
    rw [Instant.le_iff] at hle
    exact Int.le_trans hnow hle
  · intro hu now hwithin hnow
    rw [hexpired, hu, Instant.le_iff] at hnow
    have hlast := Instant.le_iff.mp hwithin.2
    exact Instant.totalNanos_inj (Int.le_antisymm hlast hnow)

/-- A person signs on half a second before 1970, for one second. -/
theorem expiry_exact_crossing :
    let config : Config := { endpoint := "https://id.example", clientId := "app" }
    let body := Utf8.encode "\x7b\"accessToken\":\"a\",\"expiresIn\":1\x7d"
    let t : Instant := ⟨-1, 500000000⟩
    let moves : List Move :=
      [.start config (.login ⟨"u@x.com", "p", none⟩), .receive 0 (.ok body),
        .event (.setClock ⟨0, 0⟩)]
    let s := ((Shared.fresh t config).run moves).session
    Shared.Installed t config moves "a" t 1 ∧ t.Representable ∧
      s.expiresAt = some ⟨0, 500000000⟩ ∧ ¬ s.isExpired ⟨0, 499999999⟩ ∧
      s.isExpired ⟨0, 500000000⟩ := by
  intro config body t moves s
  let op : Operation := .login ⟨"u@x.com", "p", none⟩
  let start := Shared.fresh t config
  have hgrant : Json.decode Grant.reader body = .ok ⟨"a", 1, none⟩ := by decide +kernel
  have hlands : (start.run [.start config op]).Lands (.receive 0 (.ok body))
      (.install ⟨"a", 1, none⟩) := by
    refine .landing (f := op.flight config start.session) rfl ?_ ?_ (.login hgrant)
    · rintro ⟨huse, _⟩
      exact huse rfl
    · intro hpass
      cases hpass
  have hquiet : (start.run [.start config op, .receive 0 (.ok body)]).Quiet (fun _ => True)
      [.event (.setClock ⟨0, 0⟩)] := by
    refine ⟨?_, trivial⟩
    intro w hw
    cases hw
  have h : Shared.Installed t config moves "a" t 1 :=
    .written ⟨[.start config op], _, _, rfl, hlands, trivial, rfl, hquiet⟩ rfl
  have ht : t.Representable := by decide
  obtain ⟨⟨_, hexpiry⟩, _, _, _, hexpired, _⟩ := expiry_exact h ht
  have hu : t.expiry 1 = ⟨0, 500000000⟩ := by decide
  rw [hu] at hexpiry hexpired
  exact ⟨h, ht, hexpiry, mt (hexpired _).mp (by decide), (hexpired _).mpr (by decide)⟩

end SignOn
