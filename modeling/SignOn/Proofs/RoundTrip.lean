import SignOn.Proofs.WireTypes

/-!
What is written for a record is read back as the same record.

* `Reader.Takes.decode_render`: a reader that takes what a value says decodes its text;
* `Grant.says`, `Device.says`, `DeviceStatus.says`, `Profile.says`: what is written for
  a record says that record;
* `decode_encode`: decoding undoes encoding, for records and for lists of devices.
-/

namespace SignOn

open Json (Datum IsInteger OrNull EachOf)

/-- The compact text of a value is decoded as what the value says. -/
theorem Json.Reader.Takes.decode_render {α : Type} {r : Json.Reader α} {kind : Datum → α → Prop}
    (h : r.Takes kind) {v : Json} {a : α} (hv : kind v.datum a) :
    Json.decode r (Utf8.encode v.render) = .ok a :=
  (h.decode (Json.written_render v).bare a).mpr hv

/-! ## Records -/

/-- An absent integer is written as null. -/
theorem Json.ofInt64?_says (i : Option Int64) : OrNull IsInteger (Json.ofInt64? i).datum i := by
  cases i with
  | none => exact .null
  | some i => exact .value (fun h => by cases h) ⟨_, rfl, Json.Numeral.integer?_ofInt i.toInt⟩

theorem Grant.says (g : Grant) : WireType.grant.Says g.toJson.datum g := by
  obtain ⟨accessToken, expiresIn, refreshToken⟩ := g
  rw [Grant.toJson, Json.datum, WireType.says_object]
  have hexpires : Json.IsNatural (Json.integer expiresIn.toNat).datum expiresIn :=
    ⟨_, rfl, Json.Numeral.integer?_ofInt expiresIn.toNat⟩
  -- an absent refresh token is left out
  cases refreshToken with
  | none => exact ⟨.inr ⟨_, rfl, rfl⟩, .inr ⟨_, rfl, hexpires⟩, .inl ⟨rfl, rfl⟩⟩
  | some r => exact ⟨.inr ⟨_, rfl, rfl⟩, .inr ⟨_, rfl, hexpires⟩, .inr ⟨_, rfl, .value (fun h => by cases h) rfl⟩⟩

theorem Device.says (d : Device) : WireType.device.Says d.toJson.datum d := by
  rw [Device.toJson, Json.datum, WireType.says_object]
  refine ⟨?_, ?_, ?_, ?_, ?_⟩
  · exact .inr ⟨_, rfl, rfl⟩
  · exact .inr ⟨_, rfl, rfl⟩
  · exact .inr ⟨_, rfl, rfl⟩
  · exact .inr ⟨_, rfl, Json.ofInt64?_says d.lastSeen⟩
  · exact .inr ⟨_, rfl, rfl⟩

theorem Device.decode_render (d : Device) :
    Json.decode Device.reader (Utf8.encode d.toJson.render) = .ok d :=
  WireType.device.reader_takes.decode_render d.says

theorem DeviceStatus.says (s : DeviceStatus) : WireType.deviceStatus.Says s.toJson.datum s := by
  have hdevice : OrNull (Json.Decodes Device.reader)
      ((s.device.map Device.toJson).getD .null).datum s.device := by
    cases s.device with
    | none => exact .null
    | some d => exact .value (fun h => by cases h) ⟨_, (Json.written_render d.toJson).bare, d.decode_render⟩
  rw [DeviceStatus.toJson, Json.datum, WireType.says_object]
  refine ⟨?_, ?_, ?_⟩
  · exact .inr ⟨_, rfl, rfl⟩
  · exact .inr ⟨_, rfl, hdevice⟩
  · exact .inr ⟨_, rfl, Json.ofInt64?_says s.lastSync⟩

theorem Profile.says (p : Profile) : WireType.profile.Says p.toJson.datum p := by
  have hcreated : IsInteger (Json.integer p.createdAt.toInt).datum p.createdAt :=
    ⟨_, rfl, Json.Numeral.integer?_ofInt p.createdAt.toInt⟩
  have hupdated : IsInteger (Json.integer p.updatedAt.toInt).datum p.updatedAt :=
    ⟨_, rfl, Json.Numeral.integer?_ofInt p.updatedAt.toInt⟩
  rw [Profile.toJson, Json.datum, WireType.says_object]
  refine ⟨?_, ?_, ?_, ?_, ?_, ?_, ?_, ?_⟩
  · exact .inr ⟨_, rfl, rfl⟩
  · exact .inr ⟨_, rfl, rfl⟩
  · exact .inr ⟨_, rfl, rfl⟩
  · exact .inr ⟨_, rfl, rfl⟩
  · exact .inr ⟨_, rfl, rfl⟩
  · exact .inr ⟨_, rfl, rfl⟩
  · exact .inr ⟨_, rfl, hcreated⟩
  · exact .inr ⟨_, rfl, hupdated⟩

/-! ## Lists -/

/-- A list of values says a list, item by item. -/
theorem Json.list_says {α : Type} {kind : Datum → α → Prop} {write : α → Json}
    (h : ∀ a, kind (write a).datum a) (as : List α) :
    EachOf kind (Json.list (as.map write)).datum as := by
  refine ⟨_, rfl, ?_⟩
  induction as with
  | nil => exact .nil
  | cons a as ih => exact .cons (h a) ih

/-- **Decoding undoes encoding**, whatever the texts and the numbers are and whichever
of the fields that may be absent are. -/
theorem decode_encode :
    (∀ g : Grant, Json.decode Grant.reader (Utf8.encode g.toJson.render) = .ok g) ∧
      (∀ d : Device, Json.decode Device.reader (Utf8.encode d.toJson.render) = .ok d) ∧
      (∀ ds : List Device, Json.decode Device.listReader
        (Utf8.encode (Json.list (ds.map Device.toJson)).render) = .ok ds) ∧
      (∀ s : DeviceStatus, Json.decode DeviceStatus.reader (Utf8.encode s.toJson.render) = .ok s) ∧
      ∀ p : Profile, Json.decode Profile.reader (Utf8.encode p.toJson.render) = .ok p := by
  refine ⟨fun g => ?_, Device.decode_render, fun ds => ?_, fun s => ?_, fun p => ?_⟩
  · exact WireType.grant.reader_takes.decode_render g.says
  · exact WireType.device.reader_takes.list.decode_render (Json.list_says Device.says ds)
  · exact WireType.deviceStatus.reader_takes.decode_render s.says
  · exact WireType.profile.reader_takes.decode_render p.says

end SignOn
