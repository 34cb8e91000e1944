import Mathlib.Data.List.Forall2
import SignOn.Json.Document
import SignOn.Proofs.Json.Inside

/-!
What a reader takes: for every reader the values of one kind, in any spelling, and
nothing else.

* `Reader.Takes`: the law, which says when a reader succeeds, with what, and where it
  stops;
* `Reader.text_takes`, `Reader.flag_takes`, `Reader.natural_takes`,
  `Reader.integer_takes`: the law of the scalars;
* `Reader.Takes.optional`, `Reader.Takes.list`, `Reader.Takes.map`: how it carries over;
* `Reader.Takes.decode`, `Reader.Takes.decodes`: what it says of whole documents.
-/

namespace SignOn.Json

/-! ## Kinds -/

def IsText (d : Datum) (t : String) : Prop := d = .text t

def IsFlag (d : Datum) (b : Bool) : Prop := d = .flag b

/-- A numeral without point and exponent that 64 bits without a sign hold. -/
def IsNatural (d : Datum) (u : UInt64) : Prop :=
  ∃ n, d = .number n ∧ n.integer? = some (u.toNat : Int)

/-- A numeral without point and exponent that 64 bits with a sign hold. -/
def IsInteger (d : Datum) (i : Int64) : Prop := ∃ n, d = .number n ∧ n.integer? = some i.toInt

variable {α β : Type} {kind : Datum → α → Prop}

/-- Null, which says nothing, or anything else of the kind. -/
inductive OrNull (kind : Datum → α → Prop) : Datum → Option α → Prop
  | null : OrNull kind .null none
  | value {d : Datum} {a : α} : d ≠ .null → kind d a → OrNull kind d (some a)

theorem orNull_iff {d : Datum} (hd : d ≠ .null) {o : Option α} :
    OrNull kind d o ↔ ∃ a, kind d a ∧ some a = o := by
  constructor
  · intro ho
    cases ho with
    | null => exact absurd rfl hd
    | value _ ha => exact ⟨_, ha, rfl⟩
  · rintro ⟨a, ha, rfl⟩
    exact .value hd ha

/-- The items are of the kind, one by one. -/
def EachOf (kind : Datum → α → Prop) (d : Datum) (as : List α) : Prop :=
  ∃ ds, d = .list ds ∧ List.Forall₂ kind ds as

namespace Reader

/-- A reader takes the values of a kind if it succeeds on these alone, with what
they say, and stops right behind them. -/
def Takes (r : Reader α) (kind : Datum → α → Prop) : Prop :=
  ∀ ⦃d : Datum⦄ ⦃s w rest : List UInt8⦄, Written (.value d) s → Blanks w → Stops rest →
    ∀ (a : α) (rest' : List UInt8),
      r.run (w ++ (s ++ rest)) = .ok (a, rest') ↔ kind d a ∧ rest' = rest

variable {r : Reader α}

/-! ## Scalars -/

/-- A reader of scalars takes what `pick` accepts. -/
theorem scalar_takes {wanted : Wanted} {pick : Lexeme → Option (Except Cause α)}
    (hl : pick .openList = none) (ho : pick .openObject = none) :
    (scalar wanted pick).Takes fun d a => ∃ l, d.lexeme? = some l ∧ pick l = some (.ok a) := by
  intro d s w rest h hw ht a rest'
  show _ ↔ (∃ l, d.lexeme? = some l ∧ pick l = some (.ok a)) ∧ rest' = rest
  have hfront := Lexeme.read_written h hw ht
  simp only [scalar]
  generalize Lexeme.read (w ++ (s ++ rest)) = front at hfront
  cases hfront with
  | @scalar _ l hd =>
    simp only [hd, Option.some.injEq, exists_eq_left']
    split
    · next b hp => simp [hp, eq_comm]
    · next c hp => simp [hp]
    · next hp => simp [hp]
  | unheld hd _ _ => simp [hd]
  | list _ => simp [hl, Datum.lexeme?]
  | object _ => simp [ho, Datum.lexeme?]

/-- A reader succeeds on a value with the only thing that it says, or it fails and the
value is not of the kind. -/
theorem Takes.run_cases (h : r.Takes kind) {d : Datum} {s w rest : List UInt8}
    (hs : Written (.value d) s) (hw : Blanks w) (ht : Stops rest) :
    (∃ a, r.run (w ++ (s ++ rest)) = .ok (a, rest) ∧ ∀ b, kind d b ↔ b = a) ∨
      ∃ e, r.run (w ++ (s ++ rest)) = .error e ∧ ∀ b, ¬ kind d b := by
  have hr := h hs hw ht
  cases hrun : r.run (w ++ (s ++ rest)) with
  | ok out =>
    obtain ⟨a, rest'⟩ := out
    obtain ⟨ha, rfl⟩ := (hr a rest').mp hrun
    refine .inl ⟨a, rfl, fun b => ⟨fun hb => ?_, fun hb => hb ▸ ha⟩⟩
    have hrun' := (hr b rest').mpr ⟨hb, rfl⟩
    rw [hrun] at hrun'
    cases hrun'
    rfl
  | error e =>
    refine .inr ⟨e, rfl, fun b hb => ?_⟩
    have hrun' := (hr b rest).mpr ⟨hb, rfl⟩
    rw [hrun] at hrun'
    cases hrun'

/-- The same without blanks in front. -/
theorem Takes.item_cases (h : r.Takes kind) {d : Datum} {s rest : List UInt8}
    (hs : Written (.value d) s) (ht : Stops rest) :
    (∃ a, r.run (s ++ rest) = .ok (a, rest) ∧ ∀ b, kind d b ↔ b = a) ∨
      ∃ e, r.run (s ++ rest) = .error e ∧ ∀ b, ¬ kind d b :=
  h.run_cases hs blanks_nil ht

theorem Takes.congr {kind' : Datum → α → Prop} (h : r.Takes kind)
    (hk : ∀ d a, kind d a ↔ kind' d a) : r.Takes kind' := by
  intro d s w rest hs hw ht a rest'
  rw [h hs hw ht, hk]

theorem text_takes : text.Takes IsText := by
  refine (scalar_takes rfl rfl).congr fun d t => ?_
  cases d <;> simp [Datum.lexeme?, IsText]

theorem flag_takes : flag.Takes IsFlag := by
  refine (scalar_takes rfl rfl).congr fun d b => ?_
  cases d <;> simp [Datum.lexeme?, IsFlag]

/-- A numeral is held as the given integer. -/
theorem lexeme?_integer (d : Datum) (i : Int) :
    d.lexeme? = some (.number (.integer i)) ↔
      ∃ n, d = .number n ∧ n.integer? = some i ∧
        -((UInt64.size / 2 : Nat) : Int) ≤ i ∧ i < (UInt64.size : Int) := by
  cases d with
  | number n =>
    have hv : (Datum.number n).lexeme? = some (.number (.integer i)) ↔
        n.value = .ok (.integer i) := by
      cases hn : n.value <;> simp [Datum.lexeme?, hn, Except.toOption]
    rw [hv, Numeral.value_integer_iff]
    simp
  | null | flag _ | text _ | list _ | object _ => simp [Datum.lexeme?]

/-- A reader of integers of 64 bits, which `toInt` makes integers without bounds. -/
theorem whole_takes {wanted : Wanted} {pick : Lexeme → Option (Except Cause α)} (toInt : α → Int)
    (hp : ∀ l a, pick l = some (.ok a) ↔ l = .number (.integer (toInt a)))
    (hl : ∀ a, -((UInt64.size / 2 : Nat) : Int) ≤ toInt a) (hh : ∀ a, toInt a < (UInt64.size : Int))
    (hlist : pick .openList = none) (hobject : pick .openObject = none) :
    (scalar wanted pick).Takes fun d a => ∃ n, d = .number n ∧ n.integer? = some (toInt a) := by
  refine (scalar_takes hlist hobject).congr fun d a => ?_
  constructor
  · rintro ⟨l, hd, hpick⟩
    obtain rfl := (hp l a).mp hpick
    obtain ⟨n, rfl, hn, _⟩ := (lexeme?_integer d _).mp hd
    exact ⟨n, rfl, hn⟩
  · rintro ⟨n, rfl, hn⟩
    exact ⟨_, (lexeme?_integer _ _).mpr ⟨n, rfl, hn, hl a, hh a⟩, (hp _ a).mpr rfl⟩

theorem natural_takes : natural.Takes IsNatural := by
  refine whole_takes (fun u : UInt64 => (u.toNat : Int)) ?_ ?_ ?_ rfl rfl
  · intro l u
    have hu : u.toNat < UInt64.size := u.toNat_lt_size
    split
    · next i =>
      simp only [Option.some.injEq, Lexeme.number.injEq, Number.integer.injEq]
      split
      · next hi =>
        simp only [Bool.and_eq_true, decide_eq_true_eq] at hi
        have hback : (UInt64.ofNat i.toNat).toNat = i.toNat := UInt64.toNat_ofNat_of_lt' (by omega)
        rw [Except.ok.injEq, ← UInt64.toNat_inj, hback]
        omega
      · next hi =>
        simp only [Bool.and_eq_true, decide_eq_true_eq] at hi
        simp only [reduceCtorEq, false_iff]
        omega
    · next hne =>
      simp only [reduceCtorEq, false_iff]
      exact hne _
  · intro u
    have hhalf : (0 : Int) ≤ (UInt64.size / 2 : Nat) := Int.natCast_nonneg _
    omega
  · intro u
    exact Int.ofNat_lt.mpr u.toNat_lt_size

theorem integer_takes : integer.Takes IsInteger := by
  refine whole_takes Int64.toInt ?_ Int64.minValue_le_toInt ?_ rfl rfl
  · intro l i
    split
    · next j =>
      simp only [Option.some.injEq, Lexeme.number.injEq, Number.integer.injEq]
      split
      · next hj =>
        simp only [Bool.and_eq_true, decide_eq_true_eq] at hj
        have hback : (Int64.ofInt j).toInt = j :=
          Int64.toInt_ofInt_of_le hj.1 (Int.lt_of_le_of_lt hj.2 (by decide))
        rw [Except.ok.injEq, ← Int64.toInt_inj, hback]
      · next hj =>
        simp only [Bool.and_eq_true, decide_eq_true_eq] at hj
        simp only [reduceCtorEq, false_iff]
        rintro rfl
        exact hj ⟨i.minValue_le_toInt, i.toInt_le⟩
    · next hne =>
      simp only [reduceCtorEq, false_iff]
      exact hne _
  · intro i
    exact Int.lt_of_le_of_lt i.toInt_le (by decide)

/-! ## Combinations -/

theorem Takes.map (h : r.Takes kind) (f : α → β) :
    (r.map f).Takes fun d b => ∃ a, kind d a ∧ f a = b := by
  intro d s w rest hs hw ht b rest'
  obtain ⟨a, hrun, ha⟩ | ⟨e, hrun, hno⟩ := h.run_cases hs hw ht
  · simp only [Reader.map, hrun, ha, exists_eq_left, Except.ok.injEq, Prod.mk.injEq,
      eq_comm (a := rest)]
  · simp only [Reader.map, hrun, reduceCtorEq, hno, false_and, exists_false]

theorem Takes.optional (h : r.Takes kind) : r.optional.Takes (OrNull kind) := by
  intro d s w rest hs hw ht o rest'
  obtain ⟨b, more, hbs, hb, _, hnull⟩ := hs.head
  have hdrop : dropBlank (w ++ (s ++ rest)) = b :: (more ++ rest) := by
    rw [dropBlank_blanks hw, hbs]
    exact dropBlank_cons hb _
  by_cases hd : d = .null
  · subst hd
    cases hs
    cases hbs
    have hrun : r.optional.run (w ++ ([0x6E, 0x75, 0x6C, 0x6C] ++ rest)) = .ok (none, rest) := by
      simp only [Reader.optional, hdrop, if_true]
      rfl
    rw [hrun]
    constructor
    · intro hok
      cases hok
      exact ⟨.null, rfl⟩
    · rintro ⟨ho, rfl⟩
      cases ho with
      | null => rfl
      | value hne _ => exact absurd rfl hne
  · -- nothing else begins with the letter of null
    have hn : b ≠ 0x6E := fun hb => hd (hnull hb)
    have hrun : r.optional.run (w ++ (s ++ rest)) = (r.map some).run (w ++ (s ++ rest)) := by
      simp only [Reader.optional, hdrop, hn, if_false]
      rfl
    rw [hrun, h.map some hs hw ht, orNull_iff hd]

/-! ## Lists -/

theorem listFrom_none {isFirst : Bool} {s : List UInt8} (r : Reader α) (held : List α)
    (h : Items.nextItem isFirst s = .ok none) :
    r.listFrom isFirst held s = .of held.reverse (Items.close s) := by
  rw [Reader.listFrom]
  split
  · next hi => rw [h] at hi; cases hi
  · rfl
  · next hi => rw [h] at hi; cases hi

theorem listFrom_some {isFirst : Bool} {s item : List UInt8} (r : Reader α) (held : List α)
    (h : Items.nextItem isFirst s = .ok (some item)) :
    r.listFrom isFirst held s =
      match r.run item with
      | .error e => .error e
      | .ok (a, rest) => r.listFrom false (a :: held) rest := by
  rw [Reader.listFrom]
  split
  · next hi => rw [h] at hi; cases hi
  · next hi => rw [h] at hi; cases hi
  · next hi =>
    rw [h] at hi
    cases hi
    split
    · next hr => simp only [hr]
    · next hr => simp only [hr]

/-- The items that are left are read one by one, behind those that are held. -/
theorem Takes.listFrom (h : r.Takes kind) {isFirst : Bool} {ds : List Datum} {s : List UInt8}
    (hs : ItemsLeft isFirst ds s) (held : List α) (rest : List UInt8) (as : List α)
    (rest' : List UInt8) :
    r.listFrom isFirst held (s ++ Byte.closeList :: rest) = .ok (as, rest') ↔
      (∃ more, List.Forall₂ kind ds more ∧ as = held.reverse ++ more) ∧ rest' = rest := by
  induction hs generalizing held with
  | none hw =>
    rw [Reader.listFrom_none _ _ (Items.nextItem_none hw _ _), Items.close_none hw]
    simp [Reading.of, eq_comm]
  | @more isFirst d ds w v s hl hv hleft ih =>
    rw [List.append_assoc, List.append_assoc,
      Reader.listFrom_some _ _ (Items.nextItem_more hl hv _)]
    obtain ⟨a, hrun, ha⟩ | ⟨e, hrun, hno⟩ := h.item_cases hv (hleft.stops rest)
    · rw [hrun, ih]
      simp only [List.forall₂_cons_left_iff, ha, List.reverse_cons, List.append_assoc,
        List.singleton_append]
      refine and_congr_left fun _ => ⟨?_, ?_⟩
      · rintro ⟨more, hmore, rfl⟩
        exact ⟨a :: more, ⟨a, more, rfl, hmore, rfl⟩, rfl⟩
      · rintro ⟨_, ⟨_, more, rfl, hmore, rfl⟩, rfl⟩
        exact ⟨more, hmore, rfl⟩
    · rw [hrun]
      simp only [reduceCtorEq, false_iff, List.forall₂_cons_left_iff, hno]
      simp

/-- A reader of lists takes the lists whose items its reader takes. -/
theorem Takes.list (h : r.Takes kind) : r.list.Takes (EachOf kind) := by
  intro d s w rest hs hw ht as rest'
  have hfront := Lexeme.read_written hs hw ht
  simp only [Reader.list]
  generalize Lexeme.read (w ++ (s ++ rest)) = front at hfront
  cases hfront with
  | scalar hd =>
    have hno : ¬ EachOf kind d as := by
      rintro ⟨ds, rfl, _⟩
      cases hd
    have hne := (Datum.lexeme?_ne hd).1
    split
    · next he => cases he
    · next he =>
      cases he
      exact absurd rfl hne
    · simp [hno]
  | unheld _ hne _ =>
    have hno : ¬ EachOf kind d as := by
      rintro ⟨ds, hd, _⟩
      exact hne ds hd
    simp [hno]
  | list hleft =>
    simp only [h.listFrom hleft]
    simp [EachOf]
  | object _ => simp [EachOf]

/-! ## Documents -/

theorem Takes.decode (h : r.Takes kind) {d : Datum} {s : List UInt8} (hs : Written (.padded d) s)
    (a : α) : Json.decode r s = .ok a ↔ kind d a := by
  cases hs with
  | @padded _ w s w' hw hs hw' =>
    obtain ⟨b, hrun, hb⟩ | ⟨e, hrun, hno⟩ := h.run_cases hs hw (stops_blanks hw')
    · simp only [Json.decode, hrun, dropBlank_eq_nil hw', hb, Except.ok.injEq, eq_comm]
    · simp only [Json.decode, hrun, reduceCtorEq, hno]

end Reader

/-- A value that is a document of its own, in some spelling, is decoded. -/
def Decodes (r : Reader α) (d : Datum) (a : α) : Prop :=
  ∃ s, Written (.padded d) s ∧ Json.decode r s = .ok a

/-- What is written somewhere is decoded if it is of the kind. -/
theorem Reader.Takes.decodes_iff {r : Reader α} (h : r.Takes kind) {d : Datum}
    (hd : ∃ s, Written (.value d) s) (a : α) : Decodes r d a ↔ kind d a := by
  constructor
  · rintro ⟨s, hs, hdecode⟩
    exact (h.decode hs a).mp hdecode
  · intro ha
    obtain ⟨s, hs⟩ := hd
    exact ⟨s, hs.bare, (h.decode hs.bare a).mpr ha⟩

/-- A reader takes the values that it decodes as documents. -/
theorem Reader.Takes.decodes {r : Reader α} (h : r.Takes kind) : r.Takes (Decodes r) := by
  intro d s w rest hs hw ht a rest'
  rw [h.decodes_iff ⟨s, hs⟩]
  exact h hs hw ht a rest'

end SignOn.Json
