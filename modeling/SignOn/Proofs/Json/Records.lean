import SignOn.Proofs.Json.Taking

/-!
What a reader of records takes: objects by the names of their members, and lists by
the order of their items.

* `Stated`: an object states a value for every field, by its only member of that name
  or by having none;
* `Listed`: a list gives its items to the fields in their order;
* `Record.ofObject_iff`, `Record.ofList_iff`: the two ways to read a record;
* `Reader.record_takes`: a reader of records takes what is stated or listed.
-/

namespace SignOn.Json

theorem Reading.map_eq_ok_iff {α β : Type} {f : α → β} {r : Reading α} {b : β}
    {rest : List UInt8} :
    Reading.map f r = .ok (b, rest) ↔ ∃ a, r = .ok (a, rest) ∧ f a = b := by
  refine ⟨Reading.map_eq_ok, ?_⟩
  rintro ⟨a, rfl, rfl⟩
  rfl

/-- The values that members give under a name. -/
def named (name : String) (ms : List (String × Datum)) : List Datum :=
  (ms.filter fun m => m.1 = name).map Prod.snd

theorem named_cons (name : String) (m : String × Datum) (ms : List (String × Datum)) :
    named name (m :: ms) = named name [m] ++ named name ms := by
  by_cases h : m.1 = name
  · simp [named, h]
  · simp [named, h]

theorem named_self (name : String) (d : Datum) : named name [(name, d)] = [d] := by
  simp [named]

theorem named_other {name other : String} (h : other ≠ name) (d : Datum) :
    named name [(other, d)] = [] := by
  simp [named, h]

/-- Up to their order, two objects have the same members under the given names. -/
def SameUnder (names : List String) (ms ms' : List (String × Datum)) : Prop :=
  (ms.filter fun m => m.1 ∈ names).Perm (ms'.filter fun m => m.1 ∈ names)

theorem SameUnder.named {names : List String} {ms ms' : List (String × Datum)}
    (h : SameUnder names ms ms') {name : String} (hn : name ∈ names) :
    (Json.named name ms).Perm (Json.named name ms') := by
  have hknown : ∀ ms : List (String × Datum),
      Json.named name ms = Json.named name (ms.filter fun m => m.1 ∈ names) := by
    intro ms
    rw [Json.named, Json.named, List.filter_filter]
    refine congrArg _ (List.filter_congr fun m _ => ?_)
    by_cases hm : m.1 = name
    · simp [hm, hn]
    · simp [hm]
  rw [hknown ms, hknown ms']
  exact (h.filter _).map _

/-! ## Fields -/

/-- A kind of values for every field. -/
@[reducible] def Kinds : List Field → Type
  | [] => Unit
  | f :: fs => (Datum → f.Carrier → Prop) × Kinds fs

/-- The reader of every field takes the values of its kind. -/
def Fit : (fs : List Field) → Kinds fs → Prop
  | [], () => True
  | f :: fs, (kind, kinds) => f.reader.Takes kind ∧ Fit fs kinds

section

variable {α : Type}

/-- What the values under its name say of a field: the only one does if it is of the
kind, and if there is none what stands for it, if anything does. -/
def Given (kind : Datum → α → Prop) (absent : Option α) (ds : List Datum) (a : α) : Prop :=
  (ds = [] ∧ absent = some a) ∨ ∃ d, ds = [d] ∧ kind d a

/-- What the values under its name make of the slot of a field. -/
def Filled (kind : Datum → α → Prop) (ds : List Datum) (slot slot' : Option α) : Prop :=
  (ds = [] ∧ slot' = slot) ∨ ∃ d a, ds = [d] ∧ slot = none ∧ kind d a ∧ slot' = some a

variable {kind : Datum → α → Prop} {ds ds' : List Datum} {slot slot' : Option α}

theorem filled_nil : Filled kind [] slot slot' ↔ slot' = slot := by
  simp [Filled]

theorem filled_one {d : Datum} :
    Filled kind [d] slot slot' ↔ slot = none ∧ ∃ a, kind d a ∧ slot' = some a := by
  simp [Filled]

/-- A slot is filled once, by whichever part of the members. -/
theorem filled_append :
    Filled kind (ds ++ ds') slot slot' ↔
      ∃ mid, Filled kind ds slot mid ∧ Filled kind ds' mid slot' := by
  constructor
  · rintro (⟨hnil, rfl⟩ | ⟨d, a, hone, rfl, ha, rfl⟩)
    · obtain ⟨rfl, rfl⟩ := List.append_eq_nil_iff.mp hnil
      exact ⟨slot', filled_nil.mpr rfl, filled_nil.mpr rfl⟩
    · obtain ⟨rfl, rfl⟩ | ⟨rfl, rfl⟩ := List.append_eq_singleton_iff.mp hone
      · exact ⟨none, filled_nil.mpr rfl, filled_one.mpr ⟨rfl, a, ha, rfl⟩⟩
      · exact ⟨some a, filled_one.mpr ⟨rfl, a, ha, rfl⟩, filled_nil.mpr rfl⟩
  · rintro ⟨mid, ⟨rfl, rfl⟩ | ⟨d, a, rfl, rfl, ha, rfl⟩, h⟩
    · exact h
    · obtain ⟨rfl, rfl⟩ | ⟨_, _, _, hmid, _⟩ := h
      · exact .inr ⟨d, a, rfl, rfl, ha, rfl⟩
      · cases hmid

/-- A slot that was empty gives a field its value, or what stands for it. -/
theorem given_iff_filled {absent : Option α} {a : α} :
    Given kind absent ds a ↔ ∃ slot, Filled kind ds none slot ∧ slot.or absent = some a := by
  constructor
  · rintro (⟨rfl, habsent⟩ | ⟨d, rfl, ha⟩)
    · exact ⟨none, filled_nil.mpr rfl, habsent⟩
    · exact ⟨some a, filled_one.mpr ⟨rfl, a, ha, rfl⟩, rfl⟩
  · rintro ⟨slot, ⟨rfl, rfl⟩ | ⟨d, b, rfl, _, hb, rfl⟩, hor⟩
    · exact .inl ⟨rfl, hor⟩
    · obtain rfl : b = a := by simpa using hor
      exact .inr ⟨d, rfl, hb⟩

theorem given_congr {absent : Option α} {a : α} (h : ds.Perm ds') :
    Given kind absent ds a ↔ Given kind absent ds' a := by
  have hnil : ds = [] ↔ ds' = [] := by
    constructor
    · rintro rfl
      exact h.nil_eq.symm
    · rintro rfl
      exact h.eq_nil
  have hone : ∀ d, ds = [d] ↔ ds' = [d] := by
    intro d
    constructor
    · rintro rfl
      exact h.symm.eq_singleton
    · rintro rfl
      exact h.eq_singleton
  simp only [Given, hnil, hone]

end

/-- An object states the value of every field. -/
def Stated : (fs : List Field) → Kinds fs → List (String × Datum) → Values fs → Prop
  | [], (), _, () => True
  | f :: fs, (kind, kinds), ms, (a, as) =>
    Given kind f.absent (named f.name ms) a ∧ Stated fs kinds ms as

/-- A list gives its items to the fields in their order. It may end early if
something stands for all that is left. -/
def Listed : (fs : List Field) → Kinds fs → List Datum → Values fs → Prop
  | [], (), ds, () => ds = []
  | f :: fs, (_, kinds), [], (a, as) => f.absent = some a ∧ Listed fs kinds [] as
  | _ :: fs, (kind, kinds), d :: ds, (a, as) => kind d a ∧ Listed fs kinds ds as

/-- What a record may be written as. -/
def Recorded (fs : List Field) (kinds : Kinds fs) : Datum → Values fs → Prop
  | .object ms, vs => Stated fs kinds ms vs
  | .list ds, vs => Listed fs kinds ds vs
  | _, _ => False

theorem recorded_cases {fs : List Field} {kinds : Kinds fs} {d : Datum} {vs : Values fs}
    (h : Recorded fs kinds d vs) :
    (∃ ms, d = .object ms ∧ Stated fs kinds ms vs) ∨
      ∃ ds, d = .list ds ∧ Listed fs kinds ds vs := by
  cases d with
  | object ms => exact .inl ⟨ms, rfl, h⟩
  | list ds => exact .inr ⟨ds, rfl, h⟩
  | null | flag b | number n | text t => exact h.elim

/-- What members make of all slots. -/
def AllFilled :
    (fs : List Field) → Kinds fs → List (String × Datum) → Slots fs → Slots fs → Prop
  | [], (), _, (), () => True
  | f :: fs, (kind, kinds), ms, (slot, slots), (slot', slots') =>
    Filled kind (named f.name ms) slot slot' ∧ AllFilled fs kinds ms slots slots'

variable {fs : List Field} {kinds : Kinds fs} {ms : List (String × Datum)}

/-- Members without a field of their name leave all slots alone. -/
theorem allFilled_unnamed {slots slots' : Slots fs} (h : ∀ f ∈ fs, named f.name ms = []) :
    AllFilled fs kinds ms slots slots' ↔ slots' = slots := by
  induction fs with
  | nil => exact iff_of_true trivial rfl
  | cons f fs ih =>
    rw [AllFilled, h f List.mem_cons_self, filled_nil,
      ih fun f' hf' => h f' (List.mem_cons_of_mem _ hf'), Prod.ext_iff]

theorem allFilled_cons {m : String × Datum} {slots slots' : Slots fs} :
    AllFilled fs kinds (m :: ms) slots slots' ↔
      ∃ mid, AllFilled fs kinds [m] slots mid ∧ AllFilled fs kinds ms mid slots' := by
  induction fs with
  | nil => exact iff_of_true trivial ⟨(), trivial, trivial⟩
  | cons f fs ih =>
    rw [AllFilled, named_cons, filled_append, ih]
    constructor
    · rintro ⟨⟨mid, h, h'⟩, mids, hs, hs'⟩
      exact ⟨(mid, mids), ⟨h, hs⟩, h', hs'⟩
    · rintro ⟨⟨mid, mids⟩, ⟨h, hs⟩, h', hs'⟩
      exact ⟨⟨mid, h, h'⟩, mids, hs, hs'⟩

/-- Only members with the names of fields matter, and their order does not. -/
theorem stated_congr {ms' : List (String × Datum)} {vs : Values fs}
    (h : ∀ f ∈ fs, (named f.name ms).Perm (named f.name ms')) :
    Stated fs kinds ms vs ↔ Stated fs kinds ms' vs := by
  induction fs with
  | nil => exact Iff.rfl
  | cons f fs ih =>
    obtain ⟨kind, kinds⟩ := kinds
    obtain ⟨a, as⟩ := vs
    have hrest : Stated fs kinds ms as ↔ Stated fs kinds ms' as :=
      ih fun f' hf' => h f' (List.mem_cons_of_mem _ hf')
    exact and_congr (given_congr (h f List.mem_cons_self)) hrest

/-- What an object states is what completes the slots that its members fill. -/
theorem stated_iff_filled {vs : Values fs} :
    Stated fs kinds ms vs ↔
      ∃ slots, AllFilled fs kinds ms (Slots.empty fs) slots ∧ Slots.complete fs slots = .ok vs := by
  induction fs with
  | nil => exact iff_of_true trivial ⟨(), trivial, rfl⟩
  | cons f fs ih =>
    obtain ⟨a, as⟩ := vs
    rw [Stated, given_iff_filled, ih]
    constructor
    · rintro ⟨⟨slot, h, hor⟩, slots, hs, hc⟩
      refine ⟨(slot, slots), ⟨h, hs⟩, ?_⟩
      simp only [Slots.complete, hor, hc]
      rfl
    · rintro ⟨⟨slot, slots⟩, ⟨h, hs⟩, hc⟩
      rw [Slots.complete] at hc
      split at hc
      · cases hc
      · next b hor =>
        cases hcs : Slots.complete fs slots with
        | error c =>
          rw [hcs] at hc
          cases hc
        | ok bs =>
          rw [hcs] at hc
          cases hc
          exact ⟨⟨slot, h, hor⟩, slots, hs, hcs⟩

namespace Record

variable {name : String} {d : Datum} {w w' v s rest : List UInt8} {isFirst : Bool}

/-! ## Objects -/

/-- A value goes to the slot of its name, if that is still empty and the value is of
the kind; without such a slot it is passed over. -/
theorem fill_iff (hfit : Fit fs kinds) (hn : (fs.map Field.name).Nodup) (hw : Blanks w)
    (hw' : Blanks w') (hv : Written (.value d) v) (ht : Stops rest) (slots filled : Slots fs)
    (rest' : List UInt8) :
    fill fs name slots (w ++ Byte.colon :: (w' ++ (v ++ rest))) = .ok (filled, rest') ↔
      AllFilled fs kinds [(name, d)] slots filled ∧ rest' = rest := by
  have hcolon := Skip.colon_blanks hw (w' ++ (v ++ rest))
  induction fs with
  | nil =>
    have hskip : (Skip.colon (w ++ Byte.colon :: (w' ++ (v ++ rest)))).bind skip = .ok rest := by
      rw [hcolon]
      exact skip_written hv hw' ht
    rw [fill, hskip]
    simp [Reading.of, AllFilled, eq_comm]
  | cons f fs ih =>
    obtain ⟨kind, kinds⟩ := kinds
    obtain ⟨slot, slots⟩ := slots
    obtain ⟨slot', slots'⟩ := filled
    obtain ⟨htakes, hfit⟩ := hfit
    obtain ⟨hnot, hn⟩ := List.nodup_cons.mp hn
    by_cases hname : name = f.name
    · -- no other field has the same name
      have hrest : AllFilled fs kinds [(name, d)] slots slots' ↔ slots' = slots := by
        refine allFilled_unnamed fun f' hf' => named_other (fun heq => hnot ?_) d
        rw [← hname, heq]
        exact List.mem_map_of_mem hf'
      rw [AllFilled, hrest, hname, named_self, filled_one]
      simp only [fill, if_true]
      cases slot with
      | some a => simp
      | none =>
        simp only [hcolon, Reading.map_eq_ok_iff, htakes hv hw' ht, Prod.mk.injEq, true_and]
        constructor
        · rintro ⟨a, ⟨ha, rfl⟩, rfl, rfl⟩
          exact ⟨⟨⟨a, ha, rfl⟩, rfl⟩, rfl⟩
        · rintro ⟨⟨⟨a, ha, rfl⟩, rfl⟩, rfl⟩
          exact ⟨a, ⟨ha, rfl⟩, rfl, rfl⟩
    · rw [AllFilled, named_other hname, filled_nil]
      simp only [fill, hname, if_false, Reading.map_eq_ok_iff, ih hfit hn, Prod.mk.injEq]
      constructor
      · rintro ⟨_, ⟨hs, rfl⟩, rfl, rfl⟩
        exact ⟨⟨rfl, hs⟩, rfl⟩
      · rintro ⟨⟨rfl, hs⟩, rfl⟩
        exact ⟨_, ⟨hs, rfl⟩, rfl, rfl⟩

theorem members_none {slots : Slots fs} (h : nextName isFirst s = .ok (none, rest)) :
    members fs isFirst slots s = .ok (slots, rest) := by
  rw [members]
  split
  · next hn => rw [h] at hn; cases hn
  · next hn => rw [h] at hn; cases hn; rfl
  · next hn => rw [h] at hn; cases hn

theorem members_some {slots : Slots fs} (h : nextName isFirst s = .ok (some name, v)) :
    members fs isFirst slots s =
      match fill fs name slots v with
      | .error e => .error e
      | .ok (filled, rest) => members fs false filled rest := by
  rw [members]
  split
  · next hn => rw [h] at hn; cases hn
  · next hn => rw [h] at hn; cases hn
  · next hn =>
    rw [h] at hn
    cases hn
    split
    · next hv => simp only [hv]
    · next hv => simp only [hv]

/-- The members that are left fill the slots one by one. -/
theorem members_iff (hfit : Fit fs kinds) (hn : (fs.map Field.name).Nodup)
    (hs : MembersLeft isFirst ms s) (slots filled : Slots fs) (rest rest' : List UInt8) :
    members fs isFirst slots (s ++ Byte.closeObject :: rest) = .ok (filled, rest') ↔
      AllFilled fs kinds ms slots filled ∧ rest' = rest := by
  induction hs generalizing slots with
  | none hw =>
    rw [members_none (nextName_none hw _ _), allFilled_unnamed fun _ _ => rfl]
    simp [eq_comm]
  | @more isFirst name d ms w k w' w'' v s hl hk hw hw' hv hleft ih =>
    have htext : w ++ Byte.quote :: (k ++ Byte.quote :: (w' ++ Byte.colon :: (w'' ++ (v ++ s)))) ++
        Byte.closeObject :: rest = w ++ Byte.quote :: (k ++ Byte.quote ::
          (w' ++ Byte.colon :: (w'' ++ (v ++ (s ++ Byte.closeObject :: rest))))) := by
      simp only [List.append_assoc, List.cons_append]
    have hfill : ∀ mid more, fill fs name slots
        (w' ++ Byte.colon :: (w'' ++ (v ++ (s ++ Byte.closeObject :: rest)))) = .ok (mid, more) ↔
          AllFilled fs kinds [(name, d)] slots mid ∧ more = s ++ Byte.closeObject :: rest :=
      fill_iff hfit hn hw hw' hv (hleft.stops rest) slots
    rw [htext, members_some (nextName_more hl hk _), allFilled_cons]
    split
    · next e hf =>
      refine iff_of_false (by simp) ?_
      rintro ⟨⟨mid, hmid, _⟩, _⟩
      rw [(hfill mid _).mpr ⟨hmid, rfl⟩] at hf
      cases hf
    · next mid more hf =>
      obtain ⟨hmid, rfl⟩ := (hfill mid more).mp hf
      rw [ih mid]
      refine and_congr_left fun _ => ⟨fun hrest => ⟨mid, hmid, hrest⟩, ?_⟩
      rintro ⟨mid', hmid', hrest⟩
      rw [(hfill mid' _).mpr ⟨hmid', rfl⟩] at hf
      cases hf
      exact hrest

/-- **A record as an object** states the value of every field. -/
theorem ofObject_iff (hfit : Fit fs kinds) (hn : (fs.map Field.name).Nodup)
    (hs : MembersLeft true ms s) (vs : Values fs) (rest rest' : List UInt8) :
    ofObject fs (s ++ Byte.closeObject :: rest) = .ok (vs, rest') ↔
      Stated fs kinds ms vs ∧ rest' = rest := by
  have hmembers := members_iff hfit hn hs (Slots.empty fs)
  rw [ofObject, stated_iff_filled]
  split
  · next e hm =>
    refine iff_of_false (by simp) ?_
    rintro ⟨⟨slots, hslots, _⟩, _⟩
    rw [(hmembers slots rest rest).mpr ⟨hslots, rfl⟩] at hm
    cases hm
  · next slots more hm =>
    obtain ⟨hslots, rfl⟩ := (hmembers slots rest more).mp hm
    have honly : ∀ slots', AllFilled fs kinds ms (Slots.empty fs) slots' → slots' = slots := by
      intro slots' hslots'
      rw [(hmembers slots' more more).mpr ⟨hslots', rfl⟩] at hm
      cases hm
      rfl
    constructor
    · intro hok
      split at hok
      · next hc =>
        cases hok
        exact ⟨⟨slots, hslots, hc⟩, rfl⟩
      · cases hok
    · rintro ⟨⟨slots', hslots', hc⟩, rfl⟩
      rw [honly slots' hslots'] at hc
      rw [hc]

/-! ## Lists -/

/-- What is read is all that the list holds. -/
def closed {α : Type} : Reading α → Reading α
  | .ok (a, rest) => .of a (Items.close rest)
  | .error e => .error e

theorem closed_map {α β : Type} (f : α → β) (r : Reading α) :
    closed (Reading.map f r) = Reading.map f (closed r) := by
  cases r with
  | error e => rfl
  | ok out =>
    simp only [Reading.map, closed]
    cases Items.close out.2 with
    | error e => rfl
    | ok rest => rfl

/-- The items that are left go to the fields one by one. -/
theorem items_iff (hfit : Fit fs kinds) (index total : Nat) {ds : List Datum}
    (hs : ItemsLeft (index == 0) ds s) (vs : Values fs) (rest rest' : List UInt8) :
    closed (items name total fs index (s ++ Byte.closeList :: rest)) = .ok (vs, rest') ↔
      Listed fs kinds ds vs ∧ rest' = rest := by
  -- the index matters only where it tells whether an item is the first
  induction fs generalizing index ds s with
  | nil =>
    simp only [items, closed, Listed]
    cases hs with
    | none hw =>
      rw [Items.close_none hw]
      simp [Reading.of, eq_comm]
    | @more _ d ds w v s hl hv _ =>
      obtain ⟨e, he⟩ := Items.close_more hl hv (s ++ Byte.closeList :: rest)
      rw [List.append_assoc, List.append_assoc, he]
      simp [Reading.of]
  | cons f fs ih =>
    obtain ⟨kind, kinds⟩ := kinds
    obtain ⟨a, as⟩ := vs
    obtain ⟨htakes, hfit⟩ := hfit
    have hlater : (index + 1 == 0) = false := by simp
    have hmap : ∀ (b : f.Carrier) (t : List UInt8),
        closed (Reading.map (b, ·) (items name total fs (index + 1) t)) = .ok ((a, as), rest') ↔
          b = a ∧ closed (items name total fs (index + 1) t) = .ok (as, rest') := by
      intro b t
      rw [closed_map, Reading.map_eq_ok_iff]
      constructor
      · rintro ⟨_, hok, hpair⟩
        cases hpair
        exact ⟨rfl, hok⟩
      · rintro ⟨rfl, hok⟩
        exact ⟨as, hok, rfl⟩
    cases hs with
    | none hw =>
      have hleft : ItemsLeft (index + 1 == 0) [] s := .none hw
      simp only [items, Items.nextItem_none hw, Listed]
      cases f.absent with
      | none => simp [closed]
      | some b => simp only [hmap, ih hfit (index + 1) hleft, Option.some.injEq, and_assoc]
    | @more _ d ds w v s hl hv hleft =>
      rw [List.append_assoc, List.append_assoc]
      simp only [items, Items.nextItem_more hl hv, Listed]
      obtain ⟨b, hrun, hb⟩ | ⟨e, hrun, hno⟩ := htakes.item_cases hv (hleft.stops rest)
      · rw [← hlater] at hleft
        simp only [hrun, hmap, ih hfit (index + 1) hleft, hb, and_assoc, eq_comm (a := b)]
      · simp only [hrun, closed, hno]
        simp

/-- **A record as a list** gives its items to the fields in their order. -/
theorem ofList_iff (hfit : Fit fs kinds) {ds : List Datum} (hs : ItemsLeft true ds s)
    (vs : Values fs) (rest rest' : List UInt8) :
    ofList name fs (s ++ Byte.closeList :: rest) = .ok (vs, rest') ↔
      Listed fs kinds ds vs ∧ rest' = rest := by
  have hclosed : ofList name fs (s ++ Byte.closeList :: rest) =
      closed (items name fs.length fs 0 (s ++ Byte.closeList :: rest)) := by
    rw [ofList]
    cases items name fs.length fs 0 (s ++ Byte.closeList :: rest) with
    | error e => rfl
    | ok out => rfl
  rw [hclosed, items_iff hfit 0 fs.length hs]

end Record

/-- **A reader of records** takes what is stated by name or listed in order. -/
theorem Reader.record_takes (name : String) (hfit : Fit fs kinds)
    (hn : (fs.map Field.name).Nodup) : (Reader.record name fs).Takes (Recorded fs kinds) := by
  intro d s w rest hs hw ht vs rest'
  have hfront := Lexeme.read_written hs hw ht
  simp only [Reader.record]
  generalize Lexeme.read (w ++ (s ++ rest)) = front at hfront
  cases hfront with
  | scalar hd =>
    have hno : ¬ Recorded fs kinds d vs := by
      intro hrec
      obtain ⟨ms, rfl, _⟩ | ⟨ds, rfl, _⟩ := recorded_cases hrec
      · cases hd
      · cases hd
    have hne := Datum.lexeme?_ne hd
    split
    · next he => cases he
    · next he =>
      cases he
      exact absurd rfl hne.2
    · next he =>
      cases he
      exact absurd rfl hne.1
    · simp [hno]
  | unheld _ hlist hobject =>
    have hno : ¬ Recorded fs kinds d vs := by
      intro hrec
      obtain ⟨ms, rfl, _⟩ | ⟨ds, rfl, _⟩ := recorded_cases hrec
      · exact hobject ms rfl
      · exact hlist ds rfl
    simp [hno]
  | list hleft => exact Record.ofList_iff hfit hleft vs rest rest'
  | object hleft => exact Record.ofObject_iff hfit hn hleft vs rest rest'

end SignOn.Json
