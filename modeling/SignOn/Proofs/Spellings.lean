import SignOn.Proofs.WireTypes

/-!
The two spellings of a record: an object with its names, and a list in the order of
its fields.

* `Json.listed_iff_stated`: a list says what its items say as members with the names of
  the fields;
* `Json.exists_listed_iff`: which lists say anything;
* `WireType.Spells`: what may be written for the first fields of a record;
* `spellings_agree`: both spellings are read alike, a list that is too long is not read,
  and which lists may stop early.
-/

namespace SignOn

open Json (Datum Field Kinds Values Listed Recorded Decodes OrNull Written)

namespace Json

/-! ## By position and by name -/

section

variable {α : Type} {kind : Datum → α → Prop} {absent : Option α} {a : α}

theorem given_nil : Given kind absent [] a ↔ absent = some a := by
  simp [Given]

theorem given_one {d : Datum} : Given kind absent [d] a ↔ kind d a := by
  simp [Given]

end

/-- Members with other names give nothing under a name. -/
theorem named_zip {name : String} {names : List String} (h : name ∉ names) (ds : List Datum) :
    named name (names.zip ds) = [] := by
  induction names generalizing ds with
  | nil => rfl
  | cons other names ih =>
    rw [List.mem_cons, not_or] at h
    obtain ⟨hne, hnot⟩ := h
    cases ds with
    | nil => rfl
    | cons d ds =>
      rw [List.zip_cons_cons, named_cons, named_other (Ne.symm hne), ih hnot]
      rfl

variable {fs : List Field} {kinds : Kinds fs} {ds : List Datum} {vs : Values fs}

/-- What no field has the name of may be left out. -/
theorem stated_cons_other {name : String} {ms : List (String × Datum)}
    (h : name ∉ fs.map Field.name) (d : Datum) :
    Stated fs kinds ((name, d) :: ms) vs ↔ Stated fs kinds ms vs := by
  apply stated_congr
  intro f hf
  have hne : name ≠ f.name := by
    rintro rfl
    exact h (List.mem_map_of_mem hf)
  rw [named_cons, named_other hne]
  exact .refl _

/-- **A list that is not too long** says what its items say as members with the names
of the fields. The induction takes one field and one item at a time: the member made of
the item is the only one of its name, and the later fields do not see it. -/
theorem listed_iff_stated (hn : (fs.map Field.name).Nodup) (hl : ds.length ≤ fs.length) :
    Listed fs kinds ds vs ↔ Stated fs kinds ((fs.map Field.name).zip ds) vs := by
  induction fs generalizing ds with
  | nil => exact iff_of_true (List.length_eq_zero_iff.mp (Nat.le_zero.mp hl)) trivial
  | cons f fs ih =>
    obtain ⟨kind, kinds⟩ := kinds
    obtain ⟨a, as⟩ := vs
    obtain ⟨hnot, hn⟩ := List.nodup_cons.mp hn
    cases ds with
    | nil =>
      have hrest : Listed fs kinds [] as ↔ Stated fs kinds ((fs.map Field.name).zip []) as :=
        ih hn (Nat.zero_le _)
      rw [List.zip_nil_right] at hrest ⊢
      exact and_congr given_nil.symm hrest
    | cons d ds =>
      have hrest : Listed fs kinds ds as ↔ Stated fs kinds ((fs.map Field.name).zip ds) as :=
        ih hn (Nat.le_of_succ_le_succ hl)
      have hone : named f.name ((f.name, d) :: (fs.map Field.name).zip ds) = [d] := by
        rw [named_cons, named_self, named_zip hnot]
        rfl
      show kind d a ∧ Listed fs kinds ds as ↔
        Given kind f.absent (named f.name ((f.name, d) :: (fs.map Field.name).zip ds)) a ∧
          Stated fs kinds ((f.name, d) :: (fs.map Field.name).zip ds) as
      rw [hone, given_one, stated_cons_other hnot, hrest]

/-- There is no field for what is too much. -/
theorem Listed.length_le (h : Listed fs kinds ds vs) : ds.length ≤ fs.length := by
  induction fs generalizing ds with
  | nil =>
    obtain rfl : ds = [] := h
    exact Nat.le_refl _
  | cons f fs ih =>
    cases ds with
    | nil => exact Nat.zero_le _
    | cons d ds => exact Nat.succ_le_succ (ih h.2)

/-! ## Lists that end early -/

theorem ItemsLeft.written {isFirst : Bool} {s : List UInt8} (h : ItemsLeft isFirst ds s) :
    ∀ d ∈ ds, ∃ t, Written (.value d) t := by
  induction h with
  | none _ => exact List.forall_mem_nil _
  | more _ hv _ ih => exact List.forall_mem_cons.mpr ⟨⟨_, hv⟩, ih⟩

/-- What is written in a list is written. -/
theorem Written.items_written {s : List UInt8} (h : Written (.padded (.list ds)) s) :
    ∀ d ∈ ds, ∃ t, Written (.value d) t := by
  cases h with
  | padded _ hs _ =>
    obtain ⟨_, _, hleft⟩ := ItemsLeft.of_list hs
    exact hleft.written

/-- A list says something if each of its items is read for its field, and something
stands for each field that is left. -/
theorem exists_listed_iff (hfit : Fit fs kinds) (hds : ∀ d ∈ ds, ∃ s, Written (.value d) s)
    (hl : ds.length ≤ fs.length) :
    (∃ vs, Listed fs kinds ds vs) ↔
      (∀ p ∈ fs.zip ds, ∃ a, Decodes p.1.reader p.2 a) ∧
        ∀ f ∈ fs.drop ds.length, f.absent.isSome := by
  induction fs generalizing ds with
  | nil =>
    obtain rfl : ds = [] := List.length_eq_zero_iff.mp (Nat.le_zero.mp hl)
    refine iff_of_true ⟨(), rfl⟩ ⟨?_, ?_⟩
    · exact List.forall_mem_nil _
    · exact List.forall_mem_nil _
  | cons f fs ih =>
    obtain ⟨kind, kinds⟩ := kinds
    obtain ⟨htakes, hfit⟩ := hfit
    cases ds with
    | nil =>
      have hrest := ih hfit hds (Nat.zero_le _)
      rw [List.zip_nil_right, List.length_nil, List.drop_zero] at hrest ⊢
      rw [List.forall_mem_cons, and_left_comm, ← hrest, Option.isSome_iff_exists]
      simp only [Prod.exists, Listed, exists_and_left, exists_and_right]
    | cons d ds =>
      obtain ⟨hd, hds⟩ := List.forall_mem_cons.mp hds
      have hrest := ih hfit hds (Nat.le_of_succ_le_succ hl)
      rw [List.zip_cons_cons, List.length_cons, List.drop_succ_cons, List.forall_mem_cons,
        and_assoc, ← hrest]
      simp only [Prod.exists, Listed, exists_and_left, exists_and_right, htakes.decodes_iff hd]

end Json

namespace WireType

/-! ## Records -/

/-- What may be written for the values of the first fields of a record. -/
inductive Spells (T : WireType) (xs : List Datum) : Datum → Prop
  | byPosition : T.Spells xs (.list xs)
  | byName : T.Spells xs (.object (T.names.zip xs))

/-- The names of the members that have to be given. -/
def mandatory : WireType → List String
  | grant => ["accessToken", "expiresIn"]
  | device => ["id"]
  | deviceStatus => ["available"]
  | profile => ["id"]
  | documentStatus => ["verified"]
  | enrollment => ["machineId", "clientId", "secret"]
  | machineToken => ["accessToken", "expiresIn"]
  | complaint => []

/-- Something stands for every field but the mandatory ones. -/
theorem absent_isSome_iff (T : WireType) :
    ∀ f ∈ T.fields, f.absent.isSome ↔ f.name ∉ T.mandatory := by
  cases T <;> decide

variable {T : WireType} {xs : List Datum} {d e : Datum}

theorem length_names (T : WireType) : T.names.length = T.fields.length := by
  rw [T.names_eq, List.length_map]

theorem Spells.ne_null (h : T.Spells xs d) : d ≠ .null := by
  cases h <;> simp

/-- Either spelling says what the list says, whatever the kinds of the fields are. -/
theorem Spells.recorded_iff {kinds : Kinds T.fields} {vs : Values T.fields}
    (h : T.Spells xs d) (hl : xs.length ≤ T.names.length) :
    Recorded T.fields kinds d vs ↔ Listed T.fields kinds xs vs := by
  have hn := T.names_nodup
  rw [T.length_names] at hl
  rw [T.names_eq] at hn
  cases h with
  | byPosition => exact Iff.rfl
  | byName =>
    rw [T.names_eq]
    exact (Json.listed_iff_stated hn hl).symm

theorem Spells.says_iff (h : T.Spells xs d) (h' : T.Spells xs e)
    (hl : xs.length ≤ T.names.length) (v : T.Carrier) : T.Says d v ↔ T.Says e v := by
  rw [Says, Says, h.recorded_iff hl, h'.recorded_iff hl]

/-- A list is read if its items are and nothing mandatory is left. -/
theorem decodes_list_iff {s : List UInt8} (hs : Written (.padded (.list xs)) s)
    (hl : xs.length ≤ T.names.length) :
    (∃ v, Json.decode T.reader s = .ok v) ↔
      (∀ p ∈ T.fields.zip xs, ∃ a, Decodes p.1.reader p.2 a) ∧
        ∀ name ∈ T.names.drop xs.length, name ∉ T.mandatory := by
  have hleft : (∀ name ∈ T.names.drop xs.length, name ∉ T.mandatory) ↔
      ∀ f ∈ T.fields.drop xs.length, f.absent.isSome := by
    rw [T.names_eq, ← List.map_drop, List.forall_mem_map]
    refine forall₂_congr fun f hf => ?_
    rw [T.absent_isSome_iff f (List.mem_of_mem_drop hf)]
  have hsome : (∃ v, T.Says (.list xs) v) ↔ ∃ vs, Listed T.fields T.kinds xs vs := by
    constructor
    · rintro ⟨v, hv⟩
      exact ⟨T.values v, hv⟩
    · rintro ⟨vs, hvs⟩
      refine ⟨T.ofValues vs, ?_⟩
      rw [Says, ← (T.ofValues_eq_iff vs _).mp rfl]
      exact hvs
  simp only [T.reader_takes.decode hs]
  rw [hsome, hleft]
  exact Json.exists_listed_iff T.fit hs.items_written (T.length_names ▸ hl)

/-! ## Devices in a status -/

theorem Spells.orNull_iff {ys : List Datum} {b c : Datum} (hb : device.Spells ys b)
    (hc : device.Spells ys c) (hl : ys.length ≤ device.names.length) (o : Option Device) :
    OrNull device.Says b o ↔ OrNull device.Says c o := by
  rw [Json.orNull_iff hb.ne_null, Json.orNull_iff hc.ne_null]
  simp only [hb.says_iff hc hl]

/-- The kinds of a status, its device being what the reader of devices takes. -/
def statusKinds : Kinds deviceStatus.fields :=
  (Json.IsFlag, OrNull device.Says, OrNull Json.IsInteger, ())

theorem status_fit : Json.Fit deviceStatus.fields statusKinds :=
  ⟨Json.Reader.flag_takes, device.reader_takes.optional, Json.Reader.integer_takes.optional,
    trivial⟩

end WireType

/-- Whatever is written for the two values is read alike. -/
def ReadAlike {α : Type} (r : Json.Reader α) (d e : Datum) : Prop :=
  ∀ s t, Written (.padded d) s → Written (.padded e) t →
    ∀ a, Json.decode r s = .ok a ↔ Json.decode r t = .ok a

theorem Json.Reader.Takes.readAlike {α : Type} {r : Json.Reader α} {kind : Datum → α → Prop}
    (h : r.Takes kind) {d e : Datum} (hde : ∀ a, kind d a ↔ kind e a) : ReadAlike r d e := by
  intro s t hs ht a
  rw [h.decode hs, h.decode ht, hde]

open WireType in
/-- **Both spellings of a record are read alike**, as long as there are no more items
than fields: the list of the items, and the object that gives them the names of the
first fields. A longer list is not read. A list is read if each of its items is read
for its field and no mandatory field is left. The device in a status may have either
spelling too, in either spelling of the status. -/
theorem spellings_agree :
    (∀ (T : WireType) (xs : List Datum),
      (xs.length ≤ T.names.length →
        ∀ d e, T.Spells xs d → T.Spells xs e → ReadAlike T.reader d e) ∧
      (T.names.length < xs.length →
        ∀ s, Written (.padded (.list xs)) s → ∀ v, Json.decode T.reader s ≠ .ok v) ∧
      (xs.length ≤ T.names.length →
        ∀ s, Written (.padded (.list xs)) s →
          ((∃ v, Json.decode T.reader s = .ok v) ↔
            (∀ p ∈ T.fields.zip xs, ∃ a, Decodes p.1.reader p.2 a) ∧
              ∀ name ∈ T.names.drop xs.length, name ∉ T.mandatory))) ∧
    ∀ (a : Datum) (ys more : List Datum), ys.length ≤ device.names.length → more.length ≤ 1 →
      ∀ b c d e, device.Spells ys b → device.Spells ys c →
        deviceStatus.Spells (a :: b :: more) d → deviceStatus.Spells (a :: c :: more) e →
        ReadAlike DeviceStatus.reader d e := by
  refine ⟨fun T xs => ⟨?_, ?_, ?_⟩, ?_⟩
  · intro hl d e hd he
    exact T.reader_takes.readAlike (hd.says_iff he hl)
  · intro hl s hs v hv
    have hlisted : Listed T.fields T.kinds xs (T.values v) := (T.reader_takes.decode hs v).mp hv
    have hle := hlisted.length_le
    rw [T.length_names] at hl
    omega
  · intro hl s hs
    exact decodes_list_iff hs hl
  · intro a ys more hys hmore b c d e hb hc hd he
    have hl : ∀ x, (a :: x :: more).length ≤ deviceStatus.names.length := by
      intro x
      show more.length + 1 + 1 ≤ 3
      omega
    refine (deviceStatus.takes_of_fit status_fit).readAlike fun v => ?_
    rw [hd.recorded_iff (hl b), he.recorded_iff (hl c)]
    exact and_congr_right fun _ => and_congr_left fun _ => hb.orNull_iff hc hys _

/-- A status as a list that stops early, with its device as such a list; and the same
as an object in an object. -/
theorem spellings_agree_stopped :
    let s := Utf8.encode "[true,[\"d\"]]"
    let t := Utf8.encode "\x7b\"available\":true,\"device\":\x7b\"id\":\"d\"\x7d\x7d"
    let v : DeviceStatus := ⟨true, some ⟨"d", "", "", none, false⟩, none⟩
    Json.decode DeviceStatus.reader s = .ok v ∧ Json.decode DeviceStatus.reader t = .ok v := by
  intro s t v
  have hs : Written (.padded (.list [.flag true, .list [.text "d"]])) s := by
    have h := (Json.written_render (.list [.flag true, .list [.text "d"]])).bare
    rwa [show Utf8.encode _ = s by decide] at h
  have ht : Written (.padded (.object
      [("available", .flag true), ("device", .object [("id", .text "d")])])) t := by
    have h := (Json.written_render
      (.object [("available", .flag true), ("device", .object [("id", .text "d")])])).bare
    rwa [show Utf8.encode _ = t by decide] at h
  have hagree := spellings_agree.2 (.flag true) [.text "d"] [] (by decide) (by decide) _ _ _ _
    .byPosition .byName .byPosition .byName s t hs ht v
  have hstatus : Json.decode DeviceStatus.reader s = .ok v := by
    refine ((WireType.deviceStatus.takes_of_fit WireType.status_fit).decode hs v).mpr ?_
    exact ⟨rfl, .value (by simp) ⟨rfl, rfl, rfl, rfl, rfl, rfl⟩, rfl, rfl⟩
  exact ⟨hstatus, hagree.mp hstatus⟩

end SignOn
