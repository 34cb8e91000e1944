import SignOn.Exchange
import Mathlib.Data.List.Forall2

/-!
What the library makes of a reply. A reply that is no redirect is handed over as
it is. In place of a redirect comes the reply that the last request of a chain
gets; the requests of the chain are made from the first one, with less in them
and nothing new but the address.

* `Library.redirect?_isSome_iff`: which responses the library follows;
* `Library.pursue_of_final`, `Library.pursue_of_redirect`: one step of a chain;
* `Library.pursue_last`: where a chain ends;
* `Library.pursue_sent`: what goes out in a chain;
* `Library.pursue_related`: two chains of related requests.
-/

namespace SignOn

/-- What is left of a request in one that is sent on for it: what its headers
say for authorization, or nothing of it, and its method and body, or GET without
a body. -/
structure Request.Relayed (q p : Request) : Prop where
  clientId : p.clientId = q.clientId
  headers : p.credentials = q.credentials ∧ p.authorization = q.authorization ∨
    p.credentials = none ∧ p.authorization = none
  body : p.method = q.method ∧ p.body = q.body ∨ p.method = .get ∧ p.body = none

namespace Request.Relayed

variable {p q r : Request}

theorem refl (q : Request) : q.Relayed q := ⟨rfl, .inl ⟨rfl, rfl⟩, .inl ⟨rfl, rfl⟩⟩

theorem trans (h : q.Relayed p) (h' : p.Relayed r) : q.Relayed r := by
  obtain ⟨hclient, hheaders, hbody⟩ := h
  obtain ⟨hclient', hheaders', hbody'⟩ := h'
  refine ⟨hclient'.trans hclient, ?_, ?_⟩
  · rcases hheaders' with ⟨hc, ha⟩ | hnone
    · rw [hc, ha]
      exact hheaders
    · exact Or.inr hnone
  · rcases hbody' with ⟨hm, hb⟩ | hnone
    · rw [hm, hb]
      exact hbody
    · exact Or.inr hnone

theorem authorizations (h : q.Relayed p) :
    p.authorizations = q.authorizations ∨ p.authorizations = [] := by
  rcases h.headers with ⟨hc, ha⟩ | ⟨hc, ha⟩
  · exact Or.inl (by rw [Request.authorizations, Request.authorizations, hc, ha])
  · exact Or.inr (by simp [Request.authorizations, hc, ha])

end Request.Relayed

namespace Library

variable {l : Library} {p q : Request} {r : Reply} {left : Nat}

/-! ## One response -/

/-- A redirect is a response with one of five statuses and a `Location` that the
library can follow. -/
theorem redirect?_eq_some_iff {r : Response} :
    l.redirect? q r = some p ↔ r.delivery ≠ .lost ∧ r.status.isRedirect ∧
      ∃ location url, Header.first? "Location" r.headers = some location ∧
        l.locate q.url location = some url ∧ p = l.relay q r.status url := by
  unfold redirect?
  by_cases hl : r.delivery = .lost
  · simp [hl]
  · by_cases hs : r.status.isRedirect
    · simp only [hl, hs, decide_false, Bool.not_true, Bool.or_self, Bool.false_eq_true, if_false,
        Option.map_eq_some_iff, Option.bind_eq_some_iff, ne_eq, not_false_eq_true, true_and]
      constructor
      · rintro ⟨url, ⟨location, hh, hu⟩, rfl⟩
        exact ⟨location, url, hh, hu, rfl⟩
      · rintro ⟨location, url, hh, hu, rfl⟩
        exact ⟨url, ⟨location, hh, hu⟩, rfl⟩
    · simp [hs]

/-- A redirect that the library follows: a response with one of five statuses,
whose `Location` names an address, as seen from the address of the request. -/
def Follows (l : Library) (q : Request) (r : Response) : Prop :=
  r.delivery ≠ .lost ∧ r.status ∈ [301, 302, 303, 307, 308] ∧
    ∃ location url, Header.first? "Location" r.headers = some location ∧
      l.locate q.url location = some url

theorem redirect?_isSome_iff {r : Response} : (l.redirect? q r).isSome ↔ l.Follows q r := by
  have hstatus : r.status.isRedirect ↔ r.status ∈ [301, 302, 303, 307, 308] := by
    simp [Status.isRedirect, or_assoc]
  simp only [Option.isSome_iff_exists, redirect?_eq_some_iff, hstatus, Follows]
  constructor
  · rintro ⟨_, hl, hs, location, url, hh, hu, _⟩
    exact ⟨hl, hs, location, url, hh, hu⟩
  · rintro ⟨hl, hs, location, url, hh, hu⟩
    exact ⟨_, hl, hs, location, url, hh, hu, rfl⟩

theorem redirect?_eq_none_iff {r : Response} : l.redirect? q r = none ↔ ¬ l.Follows q r := by
  rw [← redirect?_isSome_iff, Option.not_isSome_iff_eq_none]

theorem relay_relayed (l : Library) (q : Request) (status : Status) (url : String) :
    q.Relayed (l.relay q status url) := by
  refine ⟨rfl, ?_, ?_⟩
  · by_cases h : l.sameHost q.url url
    · simp [relay, h]
    · simp [relay, h]
  · by_cases h : status.keepsBody
    · simp [relay, h]
    · simp [relay, h]

/-! ## Chains -/

theorem pursue_of_final (h : l.redirect? q r.toResponse = none) :
    l.pursue left q r = { reply := r } := by
  unfold pursue
  rw [h]

theorem pursue_of_redirect (h : l.redirect? q r.toResponse = some p) :
    l.pursue (left + 1) q r =
      { reply := (l.pursue left p (r.onward p)).reply.after r.meanwhile
        sent := p :: (l.pursue left p (r.onward p)).sent } := by
  rw [pursue.eq_def, h]

theorem pursue_endless (h : l.redirect? q r.toResponse = some p) :
    l.pursue 0 q r = { reply := r.endless q } := by
  unfold pursue
  rw [h]

/-- **The end of a chain** is a reply that the library does not follow, unless
nothing has come back. The library sends on no more requests than it may. -/
theorem pursue_last (l : Library) (left : Nat) (q : Request) (r : Reply) :
    let out := l.pursue left q r
    out.sent.length ≤ left ∧ (out.reply.delivery = .lost ∨
      ∃ last, (q :: out.sent).getLast? = some last ∧
        ¬ l.Follows last out.reply.toResponse) := by
  induction left generalizing q r with
  | zero =>
    cases h : l.redirect? q r.toResponse with
    | none =>
      rw [pursue_of_final h]
      exact ⟨Nat.zero_le _, Or.inr ⟨q, rfl, redirect?_eq_none_iff.mp h⟩⟩
    | some next =>
      rw [pursue_endless h]
      exact ⟨Nat.le_refl _, Or.inl rfl⟩
  | succ left ih =>
    cases h : l.redirect? q r.toResponse with
    | none =>
      rw [pursue_of_final h]
      exact ⟨Nat.zero_le _, Or.inr ⟨q, rfl, redirect?_eq_none_iff.mp h⟩⟩
    | some next =>
      obtain ⟨hlength, hend⟩ := ih next (r.onward next)
      rw [pursue_of_redirect h]
      refine ⟨Nat.succ_le_succ hlength, ?_⟩
      rcases hend with hlost | ⟨last, hlast, hfinal⟩
      · exact Or.inl hlost
      · exact Or.inr ⟨last, List.getLast?_cons_cons.trans hlast, hfinal⟩

/-- **All that is sent in a chain** comes of the first request. -/
theorem pursue_sent (hp : p ∈ (l.pursue left q r).sent) : q.Relayed p := by
  induction left generalizing q r with
  | zero =>
    cases h : l.redirect? q r.toResponse with
    | none =>
      rw [pursue_of_final h] at hp
      cases hp
    | some next =>
      rw [pursue_endless h] at hp
      cases hp
  | succ left ih =>
    cases h : l.redirect? q r.toResponse with
    | none =>
      rw [pursue_of_final h] at hp
      cases hp
    | some next =>
      obtain ⟨_, _, _, url, _, _, rfl⟩ := redirect?_eq_some_iff.mp h
      have hnext := relay_relayed l q r.status url
      rw [pursue_of_redirect h] at hp
      rcases List.mem_cons.mp hp with rfl | hp
      · exact hnext
      · exact hnext.trans (ih hp)

section

variable {R : Request → Request → Prop} (hurl : ∀ p q, R p q → p.url = q.url)
  (step : ∀ p q status url, R p q → R (l.relay p status url) (l.relay q status url))
include hurl step

/-- Related requests are sent on together, or not at all. -/
theorem redirect?_related (h : R p q) (r : Response) :
    (l.redirect? p r = none ∧ l.redirect? q r = none) ∨
      ∃ p' q', l.redirect? p r = some p' ∧ l.redirect? q r = some q' ∧ R p' q' := by
  unfold redirect?
  rw [hurl p q h]
  split
  · exact Or.inl ⟨rfl, rfl⟩
  · cases (Header.first? "Location" r.headers).bind (l.locate q.url) with
    | none => exact Or.inl ⟨rfl, rfl⟩
    | some url => exact Or.inr ⟨_, _, rfl, rfl, step p q r.status url h⟩

/-- **Two chains side by side.** If requests to one address stay related when
they are sent on, what is handed over is the same for both, and the chains are
related one by one. -/
theorem pursue_related (h : R p q) :
    (l.pursue left p r).reply = (l.pursue left q r).reply ∧
      List.Forall₂ R (l.pursue left p r).sent (l.pursue left q r).sent := by
  induction left generalizing p q r with
  | zero =>
    obtain ⟨hp, hq⟩ | ⟨p', q', hp, hq, _⟩ := redirect?_related hurl step h r.toResponse
    · rw [pursue_of_final hp, pursue_of_final hq]
      exact ⟨rfl, .nil⟩
    · rw [pursue_endless hp, pursue_endless hq, Reply.endless, Reply.endless, hurl p q h]
      exact ⟨rfl, .nil⟩
  | succ left ih =>
    obtain ⟨hp, hq⟩ | ⟨p', q', hp, hq, h'⟩ := redirect?_related hurl step h r.toResponse
    · rw [pursue_of_final hp, pursue_of_final hq]
      exact ⟨rfl, .nil⟩
    · -- the replies to the next requests tell no more of these than their address
      have honward : r.onward p' = r.onward q' := by
        unfold Reply.onward
        rw [hurl p' q' h']
      obtain ⟨hreply, hsent⟩ := ih (r := r.onward q') h'
      rw [pursue_of_redirect hp, pursue_of_redirect hq, honward]
      exact ⟨by rw [hreply], .cons h' hsent⟩

end

end Library

end SignOn
