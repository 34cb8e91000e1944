import SignOn.Proofs.Capture
import SignOn.Proofs.Json.Rendering
import SignOn.Proofs.Json.Unambiguous

/-!
What goes out in the body of a request. No text that is put into a body can pass for
another one, for a name, or for the end of what it stands in.

* `Operation.Carries`: the members of the body, operation by operation;
* `Operation.SameInput.members_eq`, `Operation.Carries.sameInput`: what makes the members
  equal;
* `Json.written_texts_iff`: the only thing that an object of texts says;
* `Operation.body_of_carries`: the members are what is written;
* `payloads_lossless`: the bodies of all attempts.
-/

namespace SignOn

open Json (Datum Written)

/-! ## Members -/

/-- A member that is left out if there is no text for it, or an empty one. -/
def unlessEmpty (name : String) : Option String → List (String × String)
  | none => []
  | some t => if t = "" then [] else [(name, t)]

/-- Two codes are the same if neither is there or both are equal; an empty one is not there. -/
def SameCode (a b : Option String) : Prop :=
  a = b ∨ (a = none ∨ a = some "") ∧ (b = none ∨ b = some "")

theorem unlessEmpty_eq_iff {name : String} {a b : Option String} :
    unlessEmpty name a = unlessEmpty name b ↔ SameCode a b := by
  cases a with
  | none =>
    cases b with
    | none => simp [SameCode]
    | some u => by_cases hu : u = "" <;> simp [unlessEmpty, SameCode, hu]
  | some t =>
    cases b with
    | none => by_cases ht : t = "" <;> simp [unlessEmpty, SameCode, ht]
    | some u =>
      by_cases ht : t = ""
      · by_cases hu : u = "" <;> simp [unlessEmpty, SameCode, ht, hu, eq_comm]
      · by_cases hu : u = "" <;> simp [unlessEmpty, SameCode, ht, hu]

theorem Factor.wireName_inj {f f' : Factor} : f.wireName = f'.wireName ↔ f = f' := by
  cases f <;> cases f' <;> decide

theorem Json.spoken_eq (name : String) (value : Option String) :
    Json.spoken name value = (unlessEmpty name value).map fun m => (m.1, Json.text m.2) := by
  cases value with
  | none => rfl
  | some t =>
    by_cases h : t = ""
    · simp [spoken, unlessEmpty, nonEmpty?, h]
    · simp [spoken, unlessEmpty, nonEmpty_of_ne h, h]

namespace Operation

/-- The members of the body of an operation, in their order: what the caller gives, the
client id, or the refresh token that is held. -/
inductive Carries (config : Config) (held : Session) : Operation → List (String × String) → Prop
  | login (c : Credentials) : Carries config held (.login c)
      ([("email", c.email), ("password", c.password)] ++ unlessEmpty "totpCode" c.totp)
  | strengthen (s : StepUp) : Carries config held (.strengthen s)
      ([("type", s.factor.wireName)] ++ unlessEmpty "value" s.value)
  | refresh {token : String} : held.refreshToken = some token →
      Carries config held .refresh [("refreshToken", token)]
  | verifyDocument (d : Submission) : Carries config held (.verifyDocument d)
      [("documentType", d.documentType), ("documentNumber", d.documentNumber),
        ("issuanceDate", d.issuanceDate), ("expirationDate", d.expirationDate)]
  | enroll : Carries config held .enroll [("clientId", config.clientId)]
  | machineToken (secret : String) : Carries config held (.machineToken secret)
      [("grant_type", "client_credentials"), ("client_id", config.clientId),
        ("client_secret", secret)]
  | revokeMachine (secret : String) : Carries config held (.revokeMachine secret)
      [("client_id", config.clientId), ("client_secret", secret)]

/-- Two calls of one operation are given the same. -/
inductive SameInput (config config' : Config) (held held' : Session) : Operation → Operation → Prop
  | login {c c' : Credentials} : c.email = c'.email → c.password = c'.password →
      SameCode c.totp c'.totp → SameInput config config' held held' (.login c) (.login c')
  | strengthen {s s' : StepUp} : s.factor = s'.factor → SameCode s.value s'.value →
      SameInput config config' held held' (.strengthen s) (.strengthen s')
  | refresh : held.refreshToken = held'.refreshToken →
      SameInput config config' held held' .refresh .refresh
  | verifyDocument (d : Submission) :
      SameInput config config' held held' (.verifyDocument d) (.verifyDocument d)
  | enroll : config.clientId = config'.clientId →
      SameInput config config' held held' .enroll .enroll
  | machineToken (secret : String) : config.clientId = config'.clientId →
      SameInput config config' held held' (.machineToken secret) (.machineToken secret)
  | revokeMachine (secret : String) : config.clientId = config'.clientId →
      SameInput config config' held held' (.revokeMachine secret) (.revokeMachine secret)

variable {config config' : Config} {held held' : Session} {op op' : Operation}
  {ms ms' : List (String × String)}

/-- The same input makes the same members. -/
theorem SameInput.members_eq (h : SameInput config config' held held' op op')
    (hc : op.Carries config held ms) (hc' : op'.Carries config' held' ms') : ms = ms' := by
  cases h with
  | login he hp ht =>
    cases hc
    cases hc'
    rw [he, hp, unlessEmpty_eq_iff.mpr ht]
  | strengthen hf hv =>
    cases hc
    cases hc'
    rw [hf, unlessEmpty_eq_iff.mpr hv]
  | refresh heq =>
    cases hc with
    | refresh ht =>
      cases hc' with
      | refresh ht' =>
        rw [ht, ht'] at heq
        rw [Option.some.inj heq]
  | verifyDocument d =>
    cases hc
    cases hc'
    rfl
  | enroll hid | machineToken secret hid | revokeMachine secret hid =>
    cases hc
    cases hc'
    rw [hid]

/-- The members tell the input: the first name tells the operation, and the texts tell
what it was given. -/
theorem Carries.sameInput (h : op.Carries config held ms) (h' : op'.Carries config' held' ms')
    (heq : ms = ms') : SameInput config config' held held' op op' := by
  cases h with
  | login c =>
    cases h' with
    | login c' =>
      simp only [List.cons_append, List.nil_append, List.cons.injEq, Prod.mk.injEq, true_and,
        unlessEmpty_eq_iff] at heq
      obtain ⟨he, hp, ht⟩ := heq
      exact .login he hp ht
    | _ => simp at heq
  | strengthen s =>
    cases h' with
    | strengthen s' =>
      simp only [List.cons_append, List.nil_append, List.cons.injEq, Prod.mk.injEq, true_and,
        unlessEmpty_eq_iff, Factor.wireName_inj] at heq
      obtain ⟨hf, hv⟩ := heq
      exact .strengthen hf hv
    | _ => simp at heq
  | refresh ht =>
    cases h' with
    | refresh ht' =>
      simp only [List.cons.injEq, Prod.mk.injEq, true_and, and_true] at heq
      exact .refresh (by rw [ht, ht', heq])
    | _ => simp at heq
  | verifyDocument d =>
    cases h' with
    | verifyDocument d' =>
      obtain ⟨documentType, documentNumber, issuanceDate, expirationDate⟩ := d
      obtain ⟨documentType', documentNumber', issuanceDate', expirationDate'⟩ := d'
      simp only [List.cons.injEq, Prod.mk.injEq, true_and, and_true] at heq
      obtain ⟨rfl, rfl, rfl, rfl⟩ := heq
      exact .verifyDocument _
    | _ => simp at heq
  | enroll =>
    cases h' with
    | enroll =>
      simp only [List.cons.injEq, Prod.mk.injEq, true_and, and_true] at heq
      exact .enroll heq
    | _ => simp at heq
  | machineToken secret =>
    cases h' with
    | machineToken secret' =>
      simp only [List.cons.injEq, Prod.mk.injEq, true_and, and_true] at heq
      obtain ⟨hid, rfl⟩ := heq
      exact .machineToken secret hid
    | _ => simp at heq
  | revokeMachine secret =>
    cases h' with
    | revokeMachine secret' =>
      simp only [List.cons.injEq, Prod.mk.injEq, true_and, and_true] at heq
      obtain ⟨hid, rfl⟩ := heq
      exact .revokeMachine secret hid
    | _ => simp at heq

/-- With the same input there is a body in both cases. -/
theorem SameInput.carries (h : SameInput config config' held held' op op')
    (hc : op.Carries config held ms) : ∃ ms', op'.Carries config' held' ms' := by
  cases h with
  | login _ _ _ => exact ⟨_, .login _⟩
  | strengthen _ _ => exact ⟨_, .strengthen _⟩
  | refresh heq =>
    cases hc with
    | refresh ht => exact ⟨_, .refresh (heq ▸ ht)⟩
  | verifyDocument d => exact ⟨_, .verifyDocument d⟩
  | enroll _ => exact ⟨_, .enroll⟩
  | machineToken secret _ => exact ⟨_, .machineToken secret⟩
  | revokeMachine secret _ => exact ⟨_, .revokeMachine secret⟩

end Operation

/-! ## Bodies -/

namespace Json

/-- An object of texts as it is written. -/
def ofTexts (ms : List (String × String)) : Json := .object (ms.map fun m => (m.1, .text m.2))

/-- An object of texts as it is read. -/
def texts (ms : List (String × String)) : Datum := .object (ms.map fun m => (m.1, .text m.2))

theorem datum_ofTexts (ms : List (String × String)) : (ofTexts ms).datum = texts ms := by
  have hmembers : memberData (ms.map fun m => (m.1, .text m.2)) =
      ms.map fun m => (m.1, .text m.2) := by
    induction ms with
    | nil => rfl
    | cons m ms ih =>
      rw [List.map_cons, memberData, ih]
      rfl
  rw [ofTexts, datum, hmembers, texts]

/-- Such an object is all that its text says. -/
theorem written_texts_iff {ms : List (String × String)} {d : Datum} :
    Written (.padded d) (Utf8.encode (ofTexts ms).render) ↔ d = texts ms := by
  have hwritten := (written_render (ofTexts ms)).bare
  rw [datum_ofTexts] at hwritten
  constructor
  · intro h
    exact h.unambiguous hwritten
  · rintro rfl
    exact hwritten

theorem texts_inj {ms ms' : List (String × String)} : texts ms = texts ms' ↔ ms = ms' := by
  refine ⟨fun h => ?_, congrArg texts⟩
  have hinj : Function.Injective fun m : String × String => (m.1, Datum.text m.2) := by
    rintro ⟨name, t⟩ ⟨name', t'⟩ h
    cases h
    rfl
  exact List.map_injective_iff.mpr hinj (Datum.object.inj h)

/-- Hence texts that differ are written differently. -/
theorem render_texts_inj {ms ms' : List (String × String)} :
    (ofTexts ms).render = (ofTexts ms').render ↔ ms = ms' := by
  constructor
  · intro h
    have hwritten := written_texts_iff.mpr (rfl : texts ms = texts ms)
    rw [h, written_texts_iff, texts_inj] at hwritten
    exact hwritten
  · rintro rfl
    rfl

end Json

namespace Operation

variable {config : Config} {held : Session} {op : Operation} {ms : List (String × String)}

theorem body_of_carries (h : op.Carries config held ms) :
    (op.request config (op.token held)).body = some (Json.ofTexts ms).render := by
  have hpayload : op.payload config (op.token held) = some (Json.ofTexts ms) := by
    cases h with
    | login c =>
      rw [payload, Credentials.toJson, Json.spoken_eq]
      rfl
    | strengthen s =>
      rw [payload, StepUp.toJson, Json.spoken_eq]
      rfl
    | refresh ht =>
      have htoken : refresh.token held = some _ := ht
      rw [htoken]
      rfl
    | verifyDocument | enroll | machineToken | revokeMachine => rfl
  show (op.payload config (op.token held)).map Json.render = _
  rw [hpayload]
  rfl

/-- Any other operation sends no body. -/
theorem body_none (h : ∀ ms, ¬ op.Carries config held ms) (hw : ¬ op.Wanting held) :
    (op.request config (op.token held)).body = none := by
  cases op with
  | login c => exact absurd (.login c) (h _)
  | strengthen s => exact absurd (.strengthen s) (h _)
  | refresh =>
    rw [wanting_renewal] at hw
    obtain ⟨token, ht⟩ := Option.ne_none_iff_exists'.mp hw
    exact absurd (.refresh ht) (h _)
  | verifyDocument d => exact absurd (.verifyDocument d) (h _)
  | enroll => exact absurd .enroll (h _)
  | machineToken secret => exact absurd (.machineToken secret) (h _)
  | revokeMachine secret => exact absurd (.revokeMachine secret) (h _)
  | _ => rfl

end Operation

/-- **Bodies are lossless.** Every attempt of an operation with a body sends a text that can be
read in one way only: as an object with the members of that operation, in which the texts
are those given, whatever characters they are made of. So two calls send the same body
exactly if they are calls of one operation with the same input, where an empty code
counts as none. -/
theorem payloads_lossless (others others' : Others) (config config' : Config) (op op' : Operation)
    (s s' : Scene) :
    let tries := (s.course others config op).tries
    let tries' := (s'.course others' config' op').tries
    (∀ t ∈ tries,
      (∀ ms, op.Carries config s.session ms → ∃ body, t.request.body = some body ∧
        ∀ d, Written (.padded d) (Utf8.encode body) ↔ d = Json.texts ms) ∧
      ((∀ ms, ¬ op.Carries config s.session ms) → t.request.body = none)) ∧
    ∀ t ∈ tries, ∀ t' ∈ tries', ∀ body, t.request.body = some body →
      (t'.request.body = some body ↔
        Operation.SameInput config config' s.session s'.session op op') := by
  intro tries tries'
  constructor
  · intro t ht
    obtain ⟨hw, hrequest, _⟩ := Scene.course_request others config ht
    rw [hrequest]
    constructor
    · intro ms hms
      exact ⟨_, Operation.body_of_carries hms, fun d => Json.written_texts_iff⟩
    · intro hno
      exact Operation.body_none hno hw
  · intro t ht t' ht' body hbody
    obtain ⟨hw, hrequest, _⟩ := Scene.course_request others config ht
    obtain ⟨hw', hrequest', _⟩ := Scene.course_request others' config' ht'
    rw [hrequest] at hbody
    rw [hrequest']
    have hms : ∃ ms, op.Carries config s.session ms := by
      by_contra hno
      rw [Operation.body_none (not_exists.mp hno) hw] at hbody
      cases hbody
    obtain ⟨ms, hms⟩ := hms
    rw [Operation.body_of_carries hms] at hbody
    cases hbody
    by_cases hms' : ∃ ms', op'.Carries config' s'.session ms'
    · obtain ⟨ms', hms'⟩ := hms'
      rw [Operation.body_of_carries hms', Option.some.injEq, Json.render_texts_inj, eq_comm]
      exact ⟨hms.sameInput hms', fun hsame => hsame.members_eq hms hms'⟩
    · rw [Operation.body_none (not_exists.mp hms') hw']
      exact iff_of_false (by simp) fun hsame => hms' (hsame.carries hms)

/-- A password that is spelt like the end of a text and another member stays a password;
and a code that is empty is no code. -/
theorem payloads_lossless_quoted :
    let config : Config := { endpoint := "https://id.example", clientId := "app" }
    let s : Scene :=
      { session := .empty, clock := ⟨0, 0⟩, service := { reachable := true, replies := [] } }
    let tries : Operation → List Try := fun op => (s.course (fun _ => []) config op).tries
    let forged : Operation := .login ⟨"u", "p\",\"totpCode\":\"1", none⟩
    let emptied : Operation := .login ⟨"u", "p\",\"totpCode\":\"1", some ""⟩
    let coded : Operation := .login ⟨"u", "p", some "1"⟩
    ∃ t ∈ tries forged, ∃ body, t.request.body = some body ∧
      (∀ d, Written (.padded d) (Utf8.encode body) ↔
        d = Json.texts [("email", "u"), ("password", "p\",\"totpCode\":\"1")]) ∧
      (∀ t' ∈ tries emptied, t'.request.body = some body) ∧
      ∀ t' ∈ tries coded, t'.request.body ≠ some body := by
  intro config s tries forged emptied coded
  have hw : ¬ forged.Wanting s.session := fun h => h.1 rfl
  obtain ⟨t, ht⟩ := List.exists_mem_of_ne_nil _ (Scene.course_tried (fun _ => []) config hw).1
  obtain ⟨hbody, hemptied⟩ :=
    payloads_lossless (fun _ => []) (fun _ => []) config config forged emptied s s
  obtain ⟨_, hcoded⟩ :=
    payloads_lossless (fun _ => []) (fun _ => []) config config forged coded s s
  obtain ⟨body, hsome, hreads⟩ := (hbody t ht).1 _ (.login _)
  refine ⟨t, ht, body, hsome, hreads, ?_, ?_⟩
  · intro t' ht'
    exact (hemptied t ht t' ht' body hsome).mpr (.login rfl rfl (.inr ⟨.inl rfl, .inr rfl⟩))
  · intro t' ht' hsame
    have hinput : Operation.SameInput config config s.session s.session (.login _) (.login _) :=
      (hcoded t ht t' ht' body hsome).mp hsame
    cases hinput with
    | login _ hpassword _ => exact absurd hpassword (by decide)

end SignOn
