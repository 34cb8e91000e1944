import SignOn.Proofs.Transient
import SignOn.Proofs.Unicode
import SignOn.Proofs.WireTypes

/-!
What the failure that stands for a refusal says, and what of the reply it depends on.

* `Header.first?_iff`, `Reply.requestId?_iff`: the identifier in the headers;
* `Reply.said_iff`: the texts that a body says;
* `Reply.SaysAlike`: the bodies that the failure cannot tell apart;
* `Reply.Reports`: what a failure says of a reply, part by part;
* `refusal_reported`: the status, the refusal, the text and the identifier of the failure.
-/

namespace SignOn

open Json (Written)

/-! ## Headers -/

/-- The first header of a name, which is compared without regard to case. -/
def Header.First (name value : String) (headers : List (String × String)) : Prop :=
  ∃ before spelt after, headers = before ++ (spelt, value) :: after ∧
    (∀ h ∈ before, ¬ Header.sameName h.1 name) ∧ Header.sameName spelt name

theorem Header.first?_iff {name value : String} {headers : List (String × String)} :
    Header.first? name headers = some value ↔ Header.First name value headers := by
  simp only [Header.first?, Option.map_eq_some_iff, List.find?_eq_some_iff_append]
  constructor
  · rintro ⟨⟨spelt, _⟩, ⟨hname, before, after, hsplit, hbefore⟩, rfl⟩
    exact ⟨before, spelt, after, hsplit, by simpa using hbefore, hname⟩
  · rintro ⟨before, spelt, after, hsplit, hbefore, hname⟩
    exact ⟨(spelt, value), ⟨hname, before, after, hsplit, by simpa using hbefore⟩, rfl⟩

theorem Json.Written.emptyObject_ascii {s : List UInt8} (h : Written (.padded (.object [])) s) :
    ∀ b ∈ s, b.toNat < 0x80 := by
  have hblank : ∀ {w : List UInt8}, Json.Blanks w → ∀ b ∈ w, b.toNat < 0x80 := by
    intro w hw b hb
    have hblank := hw b hb
    simp only [Json.isBlank, Bool.or_eq_true, beq_iff_eq] at hblank
    rcases hblank with ((rfl | rfl) | rfl) | rfl
    all_goals decide
  cases h with
  | padded hw hv hw' =>
    cases hv with
    | object hm => cases hm
    | emptyObject hu =>
      intro b hb
      simp only [List.mem_append, List.mem_cons, List.not_mem_nil, or_false] at hb
      rcases hb with hb | (rfl | hb | rfl) | hb
      · exact hblank hw b hb
      · decide
      · exact hblank hu b hb
      · decide
      · exact hblank hw' b hb

theorem Refusal.defaultMessage_ne_empty (refusal : Refusal) : refusal.defaultMessage ≠ "" := by
  cases refusal <;> decide

namespace Reply

variable {r r' : Reply} {c : Complaint}

/-- The headers give the exchange an identifier: the first value under X-Request-ID is
not empty and holds nothing but printable characters of ASCII and tabs. -/
def Tagged (r : Reply) (id : String) : Prop :=
  Header.First "X-Request-ID" id r.headers ∧ id ≠ "" ∧
    ∀ c ∈ id.toList, c = '\t' ∨ 0x20 ≤ c.toNat ∧ c.toNat ≤ 0x7E

theorem requestId?_iff {id : String} : r.requestId? = some id ↔ r.Tagged id := by
  have hreadable : ∀ value : String, Header.isReadable value ↔
      ∀ c ∈ value.toList, c = '\t' ∨ 0x20 ≤ c.toNat ∧ c.toNat ≤ 0x7E := by
    intro value
    simp only [Header.isReadable, List.all_eq_true, Header.isPlainChar, Bool.or_eq_true,
      Bool.and_eq_true, decide_eq_true_eq, beq_iff_eq, or_comm, Nat.lt_succ_iff]
  unfold requestId? Tagged
  rw [← Header.first?_iff, ← hreadable]
  cases Header.first? "X-Request-ID" r.headers with
  | none => simp
  | some value =>
    by_cases h : Header.isReadable value
    · simp only [h, if_true, nonEmpty?_eq_some, Option.some.injEq]
      constructor
      · rintro ⟨rfl, hne⟩
        exact ⟨rfl, hne, h⟩
      · rintro ⟨rfl, hne, _⟩
        exact ⟨rfl, hne⟩
    · refine iff_of_false (by simp [h]) ?_
      rintro ⟨hvalue, _, hid⟩
      cases hvalue
      exact h hid

/-! ## Bodies -/

/-- The body is a complaint. -/
def Complains (r : Reply) (c : Complaint) : Prop :=
  Json.decode Complaint.reader r.wording = .ok c

/-- The body is no complaint. -/
def Mute (r : Reply) : Prop := ∀ c, ¬ r.Complains c

/-- All of the body has arrived, and it is an object without members. -/
def IsEmptyObject (r : Reply) : Prop :=
  ¬ r.isCut ∧ Written (.padded (.object [])) r.content

/-- A body that is a text is taken as it stands. -/
theorem wording_of_text (hc : ¬ r.isCut) {t : String} (h : r.content = Utf8.encode t) :
    r.wording = r.content := by
  rw [wording, if_neg hc, h, Utf8.decodeLenient_encode]

theorem complaint_of_complains (h : r.Complains c) : r.complaint = c := by
  show Complaint.ofBody r.wording = c
  unfold Complaint.ofBody
  rw [h]

theorem complaint_of_mute (h : r.Mute) : r.complaint = .silent := by
  show Complaint.ofBody r.wording = .silent
  unfold Complaint.ofBody
  cases hd : Json.decode Complaint.reader r.wording with
  | ok c => exact absurd hd (h c)
  | error e => rfl

/-- An object without members is a complaint about nothing. -/
theorem IsEmptyObject.complains (h : r.IsEmptyObject) : r.Complains .silent := by
  obtain ⟨hc, hs⟩ := h
  have htext := (Utf8.encode_ascii hs.emptyObject_ascii).symm
  rw [Complains, wording_of_text hc htext]
  refine (WireType.complaint.decode_iff hs Complaint.silent).mpr ⟨?_, ?_, ?_, ?_⟩
  · exact .inl ⟨rfl, rfl⟩
  · exact .inl ⟨rfl, rfl⟩
  · exact .inl ⟨rfl, rfl⟩
  · exact .inl ⟨rfl, rfl⟩

/-- A body that breaks off is no complaint, however much of it came. -/
theorem mute_of_cut (h : r.isCut) : r.Mute := by
  have hw : r.wording = [] := by
    rw [wording, if_pos h]
    rfl
  intro c hc
  rw [Complains, hw] at hc
  cases hc

/-- What a body says in a field of a complaint, as long as it is not the empty text. -/
def Says (r : Reply) (field : Complaint → Option String) (t : String) : Prop :=
  t ≠ "" ∧ ∃ c, r.Complains c ∧ field c = some t

/-- Silence says nothing, so what is not empty was said by a complaint. -/
theorem said_iff {field : Complaint → Option String} (h : field .silent = none) {t : String} :
    (field r.complaint).bind nonEmpty? = some t ↔ r.Says field t := by
  have hfield : field r.complaint = some t ↔ ∃ c, r.Complains c ∧ field c = some t :=
    Complaint.ofBody_iff (P := fun c => field c = some t) (by simp [h])
  rw [Says, ← hfield, Option.bind_eq_some_iff]
  constructor
  · rintro ⟨u, hu, hsome⟩
    obtain ⟨rfl, hne⟩ := nonEmpty?_eq_some.mp hsome
    exact ⟨hne, hu⟩
  · rintro ⟨hne, ht⟩
    exact ⟨t, ht, nonEmpty_of_ne hne⟩

/-- Two bodies say the same: neither is a complaint, or one of them is none and the
other is an empty object, or both are complaints and say the same. -/
inductive SaysAlike (r r' : Reply) : Prop
  | mute : r.Mute → r'.Mute → SaysAlike r r'
  | empty : r.Mute → r'.IsEmptyObject → SaysAlike r r'
  | emptyFirst : r.IsEmptyObject → r'.Mute → SaysAlike r r'
  | complaint (c : Complaint) : r.Complains c → r'.Complains c → SaysAlike r r'

/-- Bodies that say the same amount to the same complaint. -/
theorem SaysAlike.complaint_eq (h : SaysAlike r r') : r.complaint = r'.complaint := by
  cases h with
  | mute h h' => rw [complaint_of_mute h, complaint_of_mute h']
  | empty h h' => rw [complaint_of_mute h, complaint_of_complains h'.complains]
  | emptyFirst h h' => rw [complaint_of_complains h.complains, complaint_of_mute h']
  | complaint c h h' => rw [complaint_of_complains h, complaint_of_complains h']

/-! ## Failures -/

/-- What a failure says of a reply that is no success: the refusal that the status and
the hints of the body amount to, the text of the body or else the one of the refusal, and
the identifier of the headers or else the one of the body. -/
structure Reports (r : Reply) (refusal : Refusal) (message : String) (id : Option String) :
    Prop where
  hinted : ∀ c, r.Complains c → refusal = .ofHints r.status c.code c.requiresTotp
  unhinted : r.Mute → refusal = .ofHints r.status none false
  said : ∀ t, r.Says Complaint.message t → message = t
  unsaid : (∀ t, ¬ r.Says Complaint.message t) → message = refusal.defaultMessage
  message_ne_empty : message ≠ ""
  id_iff : ∀ i, id = some i ↔
    r.Tagged i ∨ (∀ j, ¬ r.Tagged j) ∧ r.Says Complaint.requestId i
  id_ne_empty : id ≠ some ""

theorem reports (r : Reply) : ∃ refusal message id,
    r.refusal = .refused r.status refusal message id ∧ r.Reports refusal message id := by
  have hsaid := @said_iff r Complaint.message rfl
  have hid := @said_iff r Complaint.requestId rfl
  refine ⟨_, _, _, rfl, ?_⟩
  constructor
  case hinted =>
    intro c hc
    rw [complaint_of_complains hc]
  case unhinted =>
    intro hmute
    rw [complaint_of_mute hmute]
    rfl
  case said =>
    intro t ht
    rw [hsaid.mpr ht, Option.getD_some]
  case unsaid =>
    intro hno
    have hnone : r.complaint.message.bind nonEmpty? = none :=
      Option.eq_none_iff_forall_ne_some.mpr fun t ht => hno t (hsaid.mp ht)
    rw [hnone, Option.getD_none]
  case message_ne_empty =>
    cases h : r.complaint.message.bind nonEmpty? with
    | none => exact Refusal.defaultMessage_ne_empty _
    | some t => exact (hsaid.mp h).1
  case id_iff =>
    intro i
    rw [Option.or_eq_some_iff, Option.eq_none_iff_forall_ne_some, hid, requestId?_iff]
    simp only [ne_eq, requestId?_iff]
  case id_ne_empty =>
    intro h
    rw [Option.or_eq_some_iff, hid, requestId?_iff] at h
    rcases h with ⟨_, hne, _⟩ | ⟨_, hne, _⟩
    · exact hne rfl
    · exact hne rfl

end Reply

/-- **What is reported of an answer that is no success**, whatever its status, its headers
and its body are: the status, a text and perhaps an identifier, neither of them empty. Of
the body nothing counts but the complaint that it is. A body that breaks off is none, and a
body that is none counts as one without members, so a single field of the wrong kind
takes all the others with it. -/
theorem refusal_reported (q : Request) (r : Reply) (hl : r.delivery ≠ .lost)
    (hs : ¬ r.status.isSuccess) :
    (∃ refusal message id,
      q.outcome r = .error (.refused r.status refusal message id) ∧
        r.Reports refusal message id) ∧
    (r.isCut → r.Mute) ∧
    ∀ (q' : Request) (r' : Reply), r'.delivery ≠ .lost → r'.status = r.status →
      r'.headers = r.headers → r.SaysAlike r' → q'.outcome r' = q.outcome r := by
  have houtcome : q.outcome r = .error r.refusal := by
    rw [Request.outcome, if_neg hl, if_neg hs]
  refine ⟨?_, Reply.mute_of_cut, ?_⟩
  · obtain ⟨refusal, message, id, hrefusal, hreports⟩ := r.reports
    exact ⟨refusal, message, id, by rw [houtcome, hrefusal], hreports⟩
  · intro q' r' hl' hstatus hheaders hsame
    have hs' : ¬ r'.status.isSuccess := by rwa [hstatus]
    have hid : r'.requestId? = r.requestId? := by
      rw [Reply.requestId?, Reply.requestId?, hheaders]
    have hrefusal : r'.refusal = r.refusal := by
      simp only [Reply.refusal, hstatus, hid, hsame.complaint_eq]
    rw [houtcome, Request.outcome, if_neg hl', if_neg hs', hrefusal]

/-- A text and an identifier that are empty give way to others; and of two bodies that are
no complaint, one broken off and one with a null in the wrong place, neither is heard. -/
theorem refusal_reported_unheard :
    let q : Request :=
      { method := .get, url := "http://id.example/api/v1/userinfo", clientId := "app"
        authorization := none, body := none }
    let empty : Reply :=
      { status := 502
        headers := [("x-request-id", ""), ("X-Request-ID", "h")]
        body := Utf8.encode "\x7b\"message\":\"\",\"requestId\":\"b\"\x7d" }
    let broken : Reply :=
      { status := 401
        body := Utf8.encode "\x7b\"code\":\"SESSION_EXPIRED\"\x7d"
        delivery := .cut }
    let garbled : Reply :=
      { status := 401
        body := Utf8.encode "\x7b\"code\":\"SESSION_EXPIRED\",\"requiresTOTP\":null\x7d" }
    q.outcome empty = .error (.refused 502 .serverError "Server error occurred" (some "b")) ∧
      q.outcome garbled = q.outcome broken := by
  intro q empty broken garbled
  have hsays : empty.Complains ⟨some "", none, false, some "b"⟩ := by
    unfold Reply.Complains
    decide +kernel
  have hmute : garbled.Mute := by
    have hbad : (Json.decode Complaint.reader garbled.wording).isOk = false := by decide +kernel
    intro c hc
    rw [show Json.decode Complaint.reader garbled.wording = .ok c from hc] at hbad
    cases hbad
  obtain ⟨⟨refusal, message, id, houtcome, hreports⟩, _⟩ :=
    refusal_reported q empty (by decide) (by decide)
  have hrefusal := hreports.hinted _ hsays
  have hmessage : message = refusal.defaultMessage := by
    refine hreports.unsaid ?_
    rintro t ⟨hne, c, hc, ht⟩
    cases hsays.symm.trans hc
    cases ht
    exact hne rfl
  have hid : id = some "b" := by
    refine (hreports.id_iff "b").mpr (.inr ⟨?_, by decide, _, hsays, rfl⟩)
    intro j hj
    have hnone : empty.requestId? = none := by decide
    rw [Reply.requestId?_iff.mpr hj] at hnone
    cases hnone
  obtain ⟨_, hcut, halike⟩ := refusal_reported q broken (by decide) (by decide)
  refine ⟨?_, ?_⟩
  · rw [houtcome, hmessage, hrefusal, hid]
    rfl
  · exact halike q garbled (by decide) rfl rfl (.mute (hcut rfl) hmute)

end SignOn
