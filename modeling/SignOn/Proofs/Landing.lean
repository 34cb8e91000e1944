import SignOn.Flight

/-!
What comes of an operation, said without its code: which token it cannot do
without, which bodies it cannot read, and hence how it lands.

* `Operation.withoutToken_cases`: without its token an operation fails, unless
  it can do without;
* `Operation.land_cases`: the four ways to land after a last attempt;
* `Request.outcome_eq_ok`: only a success that arrives whole yields a body.
-/

namespace SignOn

namespace Operation

/-- The operation needs a token that the session does not hold: the refresh
token to renew the access token, and the access token to act for a person.
Signing on, machines and a look at the session need none. -/
def Lacks (s : Session) : Operation → Prop
  | .refresh => s.refreshToken = none
  | .strengthen _ | .profile | .roles | .hasPermission _ | .deviceList | .deviceStatus
  | .verifyDocument _ | .documentStatus | .revokeDocument => s.accessToken = none
  | .login _ | .logout | .revoke | .current | .enroll | .machineToken _ | .revokeMachine _ =>
    False

/-- Whether a failure matters to the operation; not to those that end a session. -/
def Heeds : Operation → Prop
  | .logout | .revoke => False
  | _ => True

/-- The token that the operation takes is not there. -/
def Wanting (op : Operation) (s : Session) : Prop := op.tokenUse ≠ .none ∧ op.token s = none

theorem withoutToken_cases {op : Operation} {s : Session} (h : op.Wanting s) :
    (op.Lacks s ∧ op.withoutToken = (.error .signedOut, none)) ∨
      (¬ op.Lacks s ∧ ∃ a w, op.withoutToken = (.ok a, w)) := by
  obtain ⟨hu, ht⟩ := h
  cases op with
  | login | enroll | machineToken | revokeMachine => exact absurd rfl hu
  | logout | revoke | current => exact Or.inr ⟨id, _, _, rfl⟩
  | strengthen | refresh | profile | roles | hasPermission | deviceList | deviceStatus
  | verifyDocument | documentStatus | revokeDocument => exact Or.inl ⟨ht, rfl⟩

theorem wanting_of_lacks {op : Operation} {s : Session} (h : op.Lacks s) : op.Wanting s := by
  cases op with
  | login | enroll | machineToken | revokeMachine | logout | revoke | current => exact h.elim
  | strengthen | refresh | profile | roles | hasPermission | deviceList | deviceStatus
  | verifyDocument | documentStatus | revokeDocument => exact ⟨nofun, h⟩

end Operation

/-! ## Bodies that cannot be read -/

/-- Why a body cannot be read, with the answer in which it stands. -/
def unreadable? {α : Type} (context : String) (r : Json.Reader α) (body : List UInt8) :
    Option (String × Json.Error) :=
  match Json.decode r body with
  | .ok _ => none
  | .error e => some (context, e)

theorem decodeAs_of_unreadable {α : Type} {context : String} {r : Json.Reader α}
    {body : List UInt8} {why : String × Json.Error} (h : unreadable? context r body = some why) :
    decodeAs context r body = .error (.unreadable why.1 why.2) := by
  unfold unreadable? at h
  unfold decodeAs
  cases hd : Json.decode r body with
  | ok a =>
    rw [hd] at h
    cases h
  | error e =>
    rw [hd] at h
    cases h
    rfl

theorem decodeAs_of_readable {α : Type} {context : String} {r : Json.Reader α}
    {body : List UInt8} (h : unreadable? context r body = none) :
    ∃ a, Json.decode r body = .ok a ∧ decodeAs context r body = .ok a := by
  unfold unreadable? at h
  unfold decodeAs
  cases hd : Json.decode r body with
  | ok a => exact ⟨a, rfl, rfl⟩
  | error e =>
    rw [hd] at h
    cases h

namespace Operation

/-- Why the operation cannot read the body of a success. Those that take no
answer from the body read anything. -/
def misread? (body : List UInt8) : Operation → Option (String × Json.Error)
  | .login _ => unreadable? "login" Grant.reader body
  | .refresh => unreadable? "token refresh" Grant.reader body
  | .current | .roles | .hasPermission _ => unreadable? "userinfo" Profile.reader body
  | .profile => unreadable? "user profile" Profile.reader body
  | .deviceList => unreadable? "device list" Device.listReader body
  | .deviceStatus => unreadable? "device status" DeviceStatus.reader body
  | .documentStatus => unreadable? "EID status" DocumentStatus.reader body
  | .enroll => unreadable? "machine enrollment" Enrollment.reader body
  | .machineToken _ => unreadable? "machine token" MachineToken.reader body
  | .strengthen _ | .logout | .revoke | .verifyDocument _ | .revokeDocument
  | .revokeMachine _ => none

theorem heeds_of_misread {op : Operation} {body : List UInt8} {why : String × Json.Error}
    (h : op.misread? body = some why) : op.Heeds := by
  cases op with
  | logout | revoke => cases h
  | _ => exact trivial

theorem succeed_of_misread {op : Operation} {held : Session} {body : List UInt8}
    {why : String × Json.Error} (h : op.misread? body = some why) :
    op.succeed held body = .error (.unreadable why.1 why.2) := by
  cases op with
  | strengthen | logout | revoke | verifyDocument | revokeDocument | revokeMachine => cases h
  | login | refresh | current | profile | roles | hasPermission | deviceList | deviceStatus
  | documentStatus | enroll | machineToken =>
    simp only [succeed, decodeAs_of_unreadable h]
    rfl

theorem succeed_of_read {op : Operation} (held : Session) {body : List UInt8}
    (h : op.misread? body = none) : ∃ a w, op.succeed held body = .ok (a, w) := by
  cases op with
  | strengthen | logout | revoke | verifyDocument | revokeDocument | revokeMachine =>
    exact ⟨_, _, rfl⟩
  | login | refresh | current | profile | roles | hasPermission | deviceList | deviceStatus
  | documentStatus | enroll | machineToken =>
    obtain ⟨a, _, ha⟩ := decodeAs_of_readable h
    simp only [succeed, ha]
    exact ⟨_, _, rfl⟩

/-! ## Landing -/

theorem land_of_heeds {op : Operation} (h : op.Heeds) (held : Session) (body : List UInt8) :
    op.land held (.ok body) = match op.succeed held body with
      | .ok (answer, write) => (.ok answer, write)
      | .error failure => (.error failure, none) := by
  cases op with
  | logout | revoke => exact h.elim
  | _ => rfl

theorem land_failed {op : Operation} (h : op.Heeds) (held : Session) (e : SendFailure) :
    op.land held (.error e) = (.error (.sending e), none) := by
  cases op with
  | logout | revoke => exact h.elim
  | _ => rfl

/-- **The ways to land.** An operation that ends a session does so in any case.
Any other fails with its last attempt, or over a body that it cannot read, or
it answers. -/
theorem land_cases (op : Operation) (held : Session) (o : Outcome) :
    (¬ op.Heeds ∧ op.land held o = (.ok .done, some .clear)) ∨
    (op.Heeds ∧ ∃ e, o = .error e ∧ op.land held o = (.error (.sending e), none)) ∨
    (op.Heeds ∧ ∃ body why, o = .ok body ∧ op.misread? body = some why ∧
      op.land held o = (.error (.unreadable why.1 why.2), none)) ∨
    (op.Heeds ∧ ∃ body a w, o = .ok body ∧ op.misread? body = none ∧
      op.land held o = (.ok a, w)) := by
  by_cases h : op.Heeds
  · right
    cases o with
    | error e => exact Or.inl ⟨h, e, rfl, land_failed h held e⟩
    | ok body =>
      right
      cases hm : op.misread? body with
      | some why =>
        refine Or.inl ⟨h, body, why, rfl, hm, ?_⟩
        rw [land_of_heeds h, succeed_of_misread hm]
      | none =>
        obtain ⟨a, w, hs⟩ := succeed_of_read held hm
        refine Or.inr ⟨h, body, a, w, rfl, hm, ?_⟩
        rw [land_of_heeds h, hs]
  · refine Or.inl ⟨h, ?_⟩
    cases op with
    | logout | revoke => rfl
    | _ => exact absurd trivial h

/-- A failure writes nothing. -/
theorem land_write_of_error {op : Operation} {held : Session} {o : Outcome} {f : Failure}
    (h : (op.land held o).1 = .error f) : (op.land held o).2 = none := by
  obtain ⟨_, ho⟩ | ⟨_, _, _, ho⟩ | ⟨_, _, _, _, _, ho⟩ | ⟨_, _, _, _, _, _, ho⟩ :=
    op.land_cases held o
  · rw [ho] at h
    cases h
  · rw [ho]
  · rw [ho]
  · rw [ho] at h
    cases h

end Operation

/-! ## Replies that arrive whole -/

/-- A success of which all has arrived. -/
def Reply.IsWholeSuccess (r : Reply) : Prop :=
  r.status.isSuccess ∧ r.delivery ≠ .lost ∧ ¬ r.isCut

theorem Request.outcome_eq_ok {q : Request} {r : Reply} {body : List UInt8} :
    q.outcome r = .ok body ↔ r.IsWholeSuccess ∧ r.content = body := by
  unfold outcome Reply.IsWholeSuccess
  by_cases hl : r.delivery = .lost
  · simp [hl]
  · by_cases hs : r.status.isSuccess
    · by_cases hc : r.isCut
      · simp [hl, hs, hc]
      · simp [hl, hs, hc]
    · simp [hl, hs]

end SignOn
