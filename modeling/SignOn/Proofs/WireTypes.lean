import SignOn.Proofs.Json.Records
import SignOn.Proofs.Json.Rendering
import SignOn.Wire.Complaint
import SignOn.Wire.Device
import SignOn.Wire.Document
import SignOn.Wire.Grant
import SignOn.Wire.Machine
import SignOn.Wire.Profile

/-!
The records that the service sends, and exactly which objects they are read from.

* `WireType.Stated`: what the members of an object say of a record, field by field;
* `WireType.reader_takes`: what the reader of each record takes;
* `stated_exactly`: an object is read as a record if and only if its members state it,
  so neither the order of the members nor members of other names nor the spelling matter.
-/

namespace SignOn

open Json (Datum Given IsText IsFlag IsNatural IsInteger OrNull Decodes Written SameUnder named)

/-! ## Members -/

section

variable {α : Type} (ms : List (String × Datum)) (name : String) (kind : Datum → α → Prop)

/-- There is one member of the name, which says `a`. -/
def Required (a : α) : Prop := Given kind none (named name ms) a

/-- There is one member of the name, which says `a`, or none, and `a` is the default. -/
def Defaulted (default a : α) : Prop := Given kind (some default) (named name ms) a

/-- There is one member of the name, which says `a` or is null, or there is none. -/
def Optional (a : Option α) : Prop := Given (OrNull kind) (some none) (named name ms) a

end

/-! ## Records -/

/-- The records that the service sends. -/
inductive WireType
  | grant
  | device
  | deviceStatus
  | profile
  | documentStatus
  | enrollment
  | machineToken
  | complaint

namespace WireType

@[reducible] def Carrier : WireType → Type
  | grant => Grant
  | device => Device
  | deviceStatus => DeviceStatus
  | profile => Profile
  | documentStatus => DocumentStatus
  | enrollment => Enrollment
  | machineToken => MachineToken
  | complaint => Complaint

def reader : (T : WireType) → Json.Reader T.Carrier
  | grant => Grant.reader
  | device => Device.reader
  | deviceStatus => DeviceStatus.reader
  | profile => Profile.reader
  | documentStatus => DocumentStatus.reader
  | enrollment => Enrollment.reader
  | machineToken => MachineToken.reader
  | complaint => Complaint.reader

/-- The names of the members that are not ignored. -/
def names : WireType → List String
  | grant => ["accessToken", "expiresIn", "refreshToken"]
  | device => ["id", "name", "type", "lastSeen", "trusted"]
  | deviceStatus => ["available", "device", "lastSync"]
  | profile =>
    ["id", "name", "email", "role", "isActive", "accountType", "createdAt", "updatedAt"]
  | documentStatus => ["verified", "documentType", "verifiedAt", "expiresAt"]
  | enrollment => ["machineId", "clientId", "secret", "accessToken"]
  | machineToken => ["accessToken", "expiresIn", "tokenType"]
  | complaint => ["message", "code", "requiresTOTP", "requestId"]

/-- What the members of an object say of a record. -/
def Stated : (T : WireType) → List (String × Datum) → T.Carrier → Prop
  | grant, ms, (v : Grant) =>
    Required ms "accessToken" IsText v.accessToken ∧
    Required ms "expiresIn" IsNatural v.expiresIn ∧
    Optional ms "refreshToken" IsText v.refreshToken
  | device, ms, (v : Device) =>
    Required ms "id" IsText v.id ∧
    Defaulted ms "name" IsText "" v.name ∧
    Defaulted ms "type" IsText "" v.kind ∧
    Optional ms "lastSeen" IsInteger v.lastSeen ∧
    Defaulted ms "trusted" IsFlag false v.trusted
  | deviceStatus, ms, (v : DeviceStatus) =>
    Required ms "available" IsFlag v.available ∧
    Optional ms "device" (Decodes Device.reader) v.device ∧
    Optional ms "lastSync" IsInteger v.lastSync
  | profile, ms, (v : Profile) =>
    Required ms "id" IsText v.id ∧
    Defaulted ms "name" IsText "" v.name ∧
    Defaulted ms "email" IsText "" v.email ∧
    Defaulted ms "role" IsText "" v.role ∧
    Defaulted ms "isActive" IsFlag false v.isActive ∧
    Defaulted ms "accountType" IsText "" v.accountType ∧
    Defaulted ms "createdAt" IsInteger 0 v.createdAt ∧
    Defaulted ms "updatedAt" IsInteger 0 v.updatedAt
  | documentStatus, ms, (v : DocumentStatus) =>
    Required ms "verified" IsFlag v.verified ∧
    Optional ms "documentType" IsText v.documentType ∧
    Optional ms "verifiedAt" IsInteger v.verifiedAt ∧
    Optional ms "expiresAt" IsInteger v.expiresAt
  | enrollment, ms, (v : Enrollment) =>
    Required ms "machineId" IsText v.machineId ∧
    Required ms "clientId" IsText v.clientId ∧
    Required ms "secret" IsText v.secret ∧
    Optional ms "accessToken" IsText v.accessToken
  | machineToken, ms, (v : MachineToken) =>
    Required ms "accessToken" IsText v.accessToken ∧
    Required ms "expiresIn" IsNatural v.expiresIn ∧
    Defaulted ms "tokenType" IsText "" v.scheme
  | complaint, ms, (v : Complaint) =>
    Optional ms "message" IsText v.message ∧
    Optional ms "code" IsText v.code ∧
    Defaulted ms "requiresTOTP" IsFlag false v.requiresTotp ∧
    Optional ms "requestId" IsText v.requestId

/-! ## Readers -/

def fields : WireType → List Json.Field
  | grant => Grant.fields
  | device => Device.fields
  | deviceStatus => DeviceStatus.fields
  | profile => Profile.fields
  | documentStatus => DocumentStatus.fields
  | enrollment => Enrollment.fields
  | machineToken => MachineToken.fields
  | complaint => Complaint.fields

def kinds : (T : WireType) → Json.Kinds T.fields
  | grant => (IsText, IsNatural, OrNull IsText, ())
  | device => (IsText, IsText, IsText, OrNull IsInteger, IsFlag, ())
  | deviceStatus => (IsFlag, OrNull (Decodes Device.reader), OrNull IsInteger, ())
  | profile =>
    (IsText, IsText, IsText, IsText, IsFlag, IsText, IsInteger, IsInteger, ())
  | documentStatus => (IsFlag, OrNull IsText, OrNull IsInteger, OrNull IsInteger, ())
  | enrollment => (IsText, IsText, IsText, OrNull IsText, ())
  | machineToken => (IsText, IsNatural, IsText, ())
  | complaint => (OrNull IsText, OrNull IsText, IsFlag, OrNull IsText, ())

def ofValues : (T : WireType) → Json.Values T.fields → T.Carrier
  | grant => Grant.ofValues
  | device => Device.ofValues
  | deviceStatus => DeviceStatus.ofValues
  | profile => Profile.ofValues
  | documentStatus => DocumentStatus.ofValues
  | enrollment => Enrollment.ofValues
  | machineToken => MachineToken.ofValues
  | complaint => Complaint.ofValues

/-- The values of all fields, in their order. -/
def values : (T : WireType) → T.Carrier → Json.Values T.fields
  | grant, (v : Grant) => (v.accessToken, v.expiresIn, v.refreshToken, ())
  | device, (v : Device) => (v.id, v.name, v.kind, v.lastSeen, v.trusted, ())
  | deviceStatus, (v : DeviceStatus) => (v.available, v.device, v.lastSync, ())
  | profile, (v : Profile) =>
    (v.id, v.name, v.email, v.role, v.isActive, v.accountType, v.createdAt, v.updatedAt, ())
  | documentStatus, (v : DocumentStatus) =>
    (v.verified, v.documentType, v.verifiedAt, v.expiresAt, ())
  | enrollment, (v : Enrollment) => (v.machineId, v.clientId, v.secret, v.accessToken, ())
  | machineToken, (v : MachineToken) => (v.accessToken, v.expiresIn, v.scheme, ())
  | complaint, (v : Complaint) => (v.message, v.code, v.requiresTotp, v.requestId, ())

theorem names_eq (T : WireType) : T.names = T.fields.map Json.Field.name := by
  cases T <;> rfl

theorem names_nodup (T : WireType) : T.names.Nodup := by
  cases T <;> decide

theorem ofValues_eq_iff (T : WireType) (vs : Json.Values T.fields) (v : T.Carrier) :
    T.ofValues vs = v ↔ vs = T.values v := by
  constructor
  · rintro rfl
    cases T <;> rfl
  · rintro rfl
    cases T <;> rfl

theorem stated_iff (T : WireType) (ms : List (String × Datum)) (v : T.Carrier) :
    Json.Stated T.fields T.kinds ms (T.values v) ↔ T.Stated ms v := by
  cases T with
  | grant | deviceStatus | machineToken =>
    show _ ∧ _ ∧ _ ∧ True ↔ _
    rw [and_true]
    rfl
  | documentStatus | enrollment | complaint =>
    show _ ∧ _ ∧ _ ∧ _ ∧ True ↔ _
    rw [and_true]
    rfl
  | device =>
    show _ ∧ _ ∧ _ ∧ _ ∧ _ ∧ True ↔ _
    rw [and_true]
    rfl
  | profile =>
    show _ ∧ _ ∧ _ ∧ _ ∧ _ ∧ _ ∧ _ ∧ _ ∧ True ↔ _
    rw [and_true]
    rfl

/-- A record is read from what its fields are read from. -/
theorem takes_of_fit (T : WireType) {kinds : Json.Kinds T.fields} (hfit : Json.Fit T.fields kinds) :
    T.reader.Takes fun d v => Json.Recorded T.fields kinds d (T.values v) := by
  have hn : (T.fields.map Json.Field.name).Nodup := T.names_eq ▸ T.names_nodup
  have hrecord := fun name => (Json.Reader.record_takes name hfit hn).map T.ofValues
  have htakes : T.reader.Takes
      fun d v => ∃ vs, Json.Recorded T.fields kinds d vs ∧ T.ofValues vs = v := by
    cases T <;> exact hrecord _
  refine htakes.congr fun d v => ?_
  simp only [ofValues_eq_iff, exists_eq_right]

open Json.Reader in
theorem device_takes : ∃ kind, Device.reader.Takes kind := by
  have hfit : Json.Fit Device.fields (kinds device) :=
    ⟨text_takes, text_takes, text_takes, integer_takes.optional, flag_takes, trivial⟩
  exact ⟨_, device.takes_of_fit hfit⟩

open Json.Reader in
theorem fit (T : WireType) : Json.Fit T.fields T.kinds := by
  obtain ⟨_, hdevice⟩ := device_takes
  cases T with
  | grant => exact ⟨text_takes, natural_takes, text_takes.optional, trivial⟩
  | device =>
    exact ⟨text_takes, text_takes, text_takes, integer_takes.optional, flag_takes, trivial⟩
  | deviceStatus =>
    exact ⟨flag_takes, hdevice.decodes.optional, integer_takes.optional, trivial⟩
  | profile =>
    exact ⟨text_takes, text_takes, text_takes, text_takes, flag_takes, text_takes, integer_takes,
      integer_takes, trivial⟩
  | documentStatus =>
    exact ⟨flag_takes, text_takes.optional, integer_takes.optional, integer_takes.optional, trivial⟩
  | enrollment => exact ⟨text_takes, text_takes, text_takes, text_takes.optional, trivial⟩
  | machineToken => exact ⟨text_takes, natural_takes, text_takes, trivial⟩
  | complaint =>
    exact ⟨text_takes.optional, text_takes.optional, flag_takes, text_takes.optional, trivial⟩

/-- What may be written for a record, as an object or as a list. -/
def Says (T : WireType) (d : Datum) (v : T.Carrier) : Prop :=
  Json.Recorded T.fields T.kinds d (T.values v)

theorem says_object (T : WireType) (ms : List (String × Datum)) (v : T.Carrier) :
    T.Says (.object ms) v ↔ T.Stated ms v :=
  T.stated_iff ms v

/-- Every record is read from what may be written for it. -/
theorem reader_takes (T : WireType) : T.reader.Takes T.Says :=
  T.takes_of_fit T.fit

/-- An object is read as what its members state. -/
theorem decode_iff (T : WireType) {ms : List (String × Datum)} {s : List UInt8}
    (h : Written (.padded (.object ms)) s) (v : T.Carrier) :
    Json.decode T.reader s = .ok v ↔ T.Stated ms v := by
  rw [T.reader_takes.decode h v, T.says_object]

theorem stated_congr (T : WireType) {ms ms' : List (String × Datum)}
    (h : SameUnder T.names ms ms') (v : T.Carrier) : T.Stated ms v ↔ T.Stated ms' v := by
  rw [← T.stated_iff, ← T.stated_iff]
  refine Json.stated_congr fun f hf => h.named ?_
  rw [T.names_eq]
  exact List.mem_map_of_mem hf

end WireType

/-- **Exactly the objects whose members state a record are read as it**, in any
spelling: every member that has to be given is there, none of the record's names
occurs twice, and what each of these members says is of its kind. Hence objects with
the same members under these names are read alike, in whatever order they stand and
whatever else stands between them. -/
theorem stated_exactly (T : WireType) {ms : List (String × Datum)} {s : List UInt8}
    (h : Written (.padded (.object ms)) s) :
    (∀ v, Json.decode T.reader s = .ok v ↔ T.Stated ms v) ∧
      ∀ ms' s', Written (.padded (.object ms')) s' → SameUnder T.names ms ms' →
        ∀ v, Json.decode T.reader s = .ok v ↔ Json.decode T.reader s' = .ok v := by
  refine ⟨T.decode_iff h, fun ms' s' h' hsame v => ?_⟩
  rw [T.decode_iff h, T.decode_iff h', T.stated_congr hsame]

/-- A grant with blanks, a member of another name and an escape in a name. -/
theorem stated_exactly_escaped :
    let s := Utf8.encode
      " \x7b\"expiresIn\" : 60,\"x\":[null],\"access\\u0054oken\":\"a\"\x7d"
    let ms : List (String × Datum) :=
      [("expiresIn", .number (.ofInt 60)), ("x", .list [.null]), ("accessToken", .text "a")]
    Written (.padded (.object ms)) s ∧
      Json.decode WireType.grant.reader s = .ok (⟨"a", 60, none⟩ : Grant) := by
  intro s ms
  have one : Json.Blanks [0x20] := List.forall_mem_singleton.mpr rfl
  have hexpires := Written.member Json.blanks_nil (Json.spelt_escape "expiresIn".toList) one
    (.padded one (Json.written_chars (.integer 60)) Json.blanks_nil)
  have hother := Written.member Json.blanks_nil (Json.spelt_escape "x".toList)
    Json.blanks_nil (Json.written_chars (.list [.null])).bare
  have hT : Json.Quad [0x30, 0x30, 0x35, 0x34] 0x54 :=
    .mk (i := 0) (j := 0) (k := 5) (l := 4) (.inl ⟨by decide, rfl⟩) (.inl ⟨by decide, rfl⟩)
      (.inl ⟨by decide, rfl⟩) (.inl ⟨by decide, rfl⟩)
  have hname : Json.Spelt "accessToken".toList _ :=
    Json.spelt_cons 'a' <| Json.spelt_cons 'c' <| Json.spelt_cons 'c' <| Json.spelt_cons 'e' <|
      Json.spelt_cons 's' <| Json.spelt_cons 's' <|
        .unit hT (by decide) (Json.spelt_escape "oken".toList)
  have haccess := Written.member Json.blanks_nil hname Json.blanks_nil (Json.written_chars (.text "a")).bare
  obtain ⟨t, h, ht⟩ : ∃ t, Written (.padded (.object ms)) t ∧ t = s :=
    have hmembers := Written.moreMembers hexpires (.moreMembers hother (.oneMember haccess))
    ⟨_, .padded one (.object hmembers) Json.blanks_nil, by decide⟩
  rw [ht] at h
  refine ⟨h, ((stated_exactly .grant h).1 _).mpr ⟨?_, ?_, ?_⟩⟩
  · exact .inr ⟨.text "a", by simp [named, ms], rfl⟩
  · exact .inr ⟨_, rfl, _, rfl, Json.Numeral.integer?_ofInt 60⟩
  · exact .inl ⟨rfl, rfl⟩

end SignOn
