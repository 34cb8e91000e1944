import SignOn.Config
import SignOn.Wire.Credentials
import SignOn.Wire.Machine

/-!
What the one-line descriptions of values show of the secrets in them.

* `Text.quote_telling`: a text in quotes tells the text, and where it ends;
* `Telling.option`: so does what is written for a value that may be absent;
* `shown_exactly`: what each description tells of its value;
* `code_shown`: the description of a step-up input shows the code in it.
-/

namespace SignOn

/-- What is written for a value tells the value and where it ends, whatever follows. -/
def Telling {α : Type} (f : α → String) : Prop :=
  ∀ a b (s t : List Char), (f a).toList ++ s = (f b).toList ++ t → a = b ∧ s = t

namespace Text

/-! ## Digits -/

theorem digitChar_inj : ∀ i < 16, ∀ j < 16, Nat.digitChar i = Nat.digitChar j → i = j := by
  decide

theorem digit_of_mem {base : Nat} (hb : 1 < base) (hb' : base ≤ 16) {n : Nat} {c : Char}
    (h : c ∈ Nat.toDigits base n) : ∃ i < 16, c = Nat.digitChar i := by
  induction n using Nat.strongRecOn with
  | ind n ih =>
    by_cases hn : n < base
    · rw [Nat.toDigits_of_lt_base hn, List.mem_singleton] at h
      exact ⟨n, by omega, h⟩
    · have hle : base ≤ n := Nat.le_of_not_lt hn
      rw [Nat.toDigits_of_base_le hb hle, List.mem_append, List.mem_singleton] at h
      rcases h with h | h
      · exact ih (n / base) (Nat.div_lt_self (by omega) hb) h
      · exact ⟨n % base, Nat.lt_of_lt_of_le (Nat.mod_lt n (by omega)) hb', h⟩

theorem toDigits_inj {base : Nat} (hb : 1 < base) (hb' : base ≤ 16) {n m : Nat}
    (h : Nat.toDigits base n = Nat.toDigits base m) : n = m := by
  have hmod : ∀ k, k % base < 16 := fun k => Nat.lt_of_lt_of_le (Nat.mod_lt k (by omega)) hb'
  induction n using Nat.strongRecOn generalizing m with
  | ind n ih =>
    -- both have one digit, or both have more, of which the last is the remainder
    by_cases hn : n < base
    · rw [Nat.toDigits_of_lt_base hn] at h
      by_cases hm : m < base
      · rw [Nat.toDigits_of_lt_base hm, List.singleton_inj] at h
        exact digitChar_inj n (by omega) m (by omega) h
      · rw [Nat.toDigits_of_base_le hb (Nat.le_of_not_lt hm)] at h
        have hlen := congrArg List.length h
        have hpos : 0 < (Nat.toDigits base (m / base)).length :=
          List.length_pos_iff.mpr Nat.toDigits_ne_nil
        simp only [List.length_append, List.length_singleton] at hlen
        omega
    · rw [Nat.toDigits_of_base_le hb (Nat.le_of_not_lt hn)] at h
      by_cases hm : m < base
      · rw [Nat.toDigits_of_lt_base hm] at h
        have hlen := congrArg List.length h
        have hpos : 0 < (Nat.toDigits base (n / base)).length :=
          List.length_pos_iff.mpr Nat.toDigits_ne_nil
        simp only [List.length_append, List.length_singleton] at hlen
        omega
      · rw [Nat.toDigits_of_base_le hb (Nat.le_of_not_lt hm)] at h
        obtain ⟨hfront, hlast⟩ := List.append_inj' h rfl
        have hdiv := ih (n / base) (Nat.div_lt_self (by omega) hb) hfront
        have hrem := digitChar_inj _ (hmod n) _ (hmod m) (List.singleton_inj.mp hlast)
        rw [← Nat.div_add_mod n base, ← Nat.div_add_mod m base, hdiv, hrem]

/-- What stands in front of the first of its kind is told by the whole. -/
theorem append_stop_inj {c : Char} {a b s t : List Char} (ha : c ∉ a) (hb : c ∉ b)
    (h : a ++ c :: s = b ++ c :: t) : a = b ∧ s = t := by
  induction a generalizing b with
  | nil =>
    cases b with
    | nil => exact ⟨rfl, (List.cons.inj h).2⟩
    | cons e b =>
      obtain ⟨rfl, _⟩ := List.cons.inj h
      exact absurd List.mem_cons_self hb
  | cons d a ih =>
    cases b with
    | nil =>
      obtain ⟨rfl, _⟩ := List.cons.inj h
      exact absurd List.mem_cons_self ha
    | cons e b =>
      obtain ⟨rfl, hrest⟩ := List.cons.inj h
      obtain ⟨rfl, rfl⟩ := ih (fun hm => ha (List.mem_cons_of_mem _ hm))
        (fun hm => hb (List.mem_cons_of_mem _ hm)) hrest
      exact ⟨rfl, rfl⟩

/-- Digits with a character behind them that is none tell the number. -/
theorem toDigits_append_inj {base : Nat} (hb : 1 < base) (hb' : base ≤ 16) {n m : Nat} {c : Char}
    (hc : ∀ i < 16, c ≠ Nat.digitChar i) {s t : List Char}
    (h : Nat.toDigits base n ++ c :: s = Nat.toDigits base m ++ c :: t) : n = m ∧ s = t := by
  have hnot : ∀ k, c ∉ Nat.toDigits base k := by
    intro k hk
    obtain ⟨i, hi, hd⟩ := digit_of_mem hb hb' hk
    exact hc i hi hd
  obtain ⟨hdigits, hrest⟩ := append_stop_inj (hnot n) (hnot m) h
  exact ⟨toDigits_inj hb hb' hdigits, hrest⟩

/-! ## Quotes -/

/-- The letters that stand for one character behind a backslash, with that character. -/
def shortEscapes : List (Char × Char) :=
  [('"', '"'), ('\\', '\\'), ('n', '\n'), ('r', '\r'), ('t', '\t'), ('0', '\x00')]

/-- What may stand for a character between the quotes. -/
inductive Escaped : Char → List Char → Prop
  | itself {c : Char} : c ≠ '"' → c ≠ '\\' → Escaped c [c]
  | short {letter c : Char} : (letter, c) ∈ shortEscapes → Escaped c ['\\', letter]
  | code (c : Char) : Escaped c (byCode c)

theorem escape_escaped (c : Char) : Escaped c (escape c) := by
  unfold escape
  split
  · exact .short (by decide)
  · exact .short (by decide)
  · exact .short (by decide)
  · exact .short (by decide)
  · exact .short (by decide)
  · exact .short (by decide)
  · next hquote hbackslash _ _ _ _ =>
    split
    · exact .itself hquote hbackslash
    · exact .code c

theorem shortEscapes_inj {letter c d : Char} (hc : (letter, c) ∈ shortEscapes)
    (hd : (letter, d) ∈ shortEscapes) : c = d := by
  simp only [shortEscapes, List.mem_cons, Prod.mk.injEq, List.not_mem_nil, or_false] at hc hd
  rcases hc with ⟨rfl, rfl⟩ | ⟨rfl, rfl⟩ | ⟨rfl, rfl⟩ | ⟨rfl, rfl⟩ | ⟨rfl, rfl⟩ | ⟨rfl, rfl⟩ <;>
    simpa [eq_comm] using hd

theorem letter_ne_u {c : Char} : ('u', c) ∉ shortEscapes := by
  simp [shortEscapes]

/-- **What stands for a character tells the character**, and where it ends. -/
theorem Escaped.append_inj {c d : Char} {u v s t : List Char} (hc : Escaped c u)
    (hd : Escaped d v) (h : u ++ s = v ++ t) : c = d ∧ s = t := by
  cases hc with
  | itself _ hne =>
    cases hd with
    | itself _ _ => simpa using h
    | short _ | code _ =>
      obtain ⟨rfl, _⟩ := List.cons.inj h
      exact absurd rfl hne
  | short hletter =>
    cases hd with
    | itself _ hne =>
      obtain ⟨rfl, _⟩ := List.cons.inj h
      exact absurd rfl hne
    | short hletter' =>
      simp only [List.cons_append, List.nil_append, List.cons.injEq, true_and] at h
      obtain ⟨rfl, rfl⟩ := h
      exact ⟨shortEscapes_inj hletter hletter', rfl⟩
    | code _ =>
      simp only [byCode, List.cons_append, List.nil_append, List.cons.injEq, true_and] at h
      obtain ⟨rfl, _⟩ := h
      exact absurd hletter letter_ne_u
  | code _ =>
    cases hd with
    | itself _ hne =>
      obtain ⟨rfl, _⟩ := List.cons.inj h
      exact absurd rfl hne
    | short hletter' =>
      simp only [byCode, List.cons_append, List.nil_append, List.cons.injEq, true_and] at h
      obtain ⟨rfl, _⟩ := h
      exact absurd hletter' letter_ne_u
    | code _ =>
      simp only [byCode, List.append_assoc, List.cons_append, List.nil_append, List.cons.injEq,
        true_and] at h
      obtain ⟨hcode, rfl⟩ := toDigits_append_inj (by decide) (by decide) (by decide) h
      exact ⟨Char.toNat_inj.mp hcode, rfl⟩

/-- Nothing that stands for a character begins with a quote. -/
theorem Escaped.head_ne {c : Char} {u s t : List Char} (h : Escaped c u) : '"' :: s ≠ u ++ t := by
  intro heq
  cases h with
  | itself hne _ =>
    obtain ⟨rfl, _⟩ := List.cons.inj heq
    exact hne rfl
  | short _ | code _ =>
    obtain ⟨hquote, _⟩ := List.cons.inj heq
    cases hquote

theorem escapes_append_inj {cs ds s t : List Char}
    (h : cs.flatMap escape ++ '"' :: s = ds.flatMap escape ++ '"' :: t) : cs = ds ∧ s = t := by
  induction cs generalizing ds with
  | nil =>
    cases ds with
    | nil => simpa using h
    | cons d ds =>
      rw [List.flatMap_cons, List.append_assoc] at h
      exact absurd h (escape_escaped d).head_ne
  | cons c cs ih =>
    rw [List.flatMap_cons, List.append_assoc] at h
    cases ds with
    | nil => exact absurd h.symm (escape_escaped c).head_ne
    | cons d ds =>
      rw [List.flatMap_cons, List.append_assoc] at h
      obtain ⟨rfl, hrest⟩ := (escape_escaped c).append_inj (escape_escaped d) h
      obtain ⟨rfl, rfl⟩ := ih hrest
      exact ⟨rfl, rfl⟩

theorem quote_telling : Telling quote := by
  intro a b s t h
  simp only [quote, String.toList_ofList, List.append_assoc, List.cons_append, List.nil_append,
    List.cons.injEq, true_and] at h
  obtain ⟨hchars, rfl⟩ := escapes_append_inj h
  exact ⟨String.toList_inj.mp hchars, rfl⟩

end Text

/-! ## Values that may be absent -/

section

variable {α : Type} {f : α → String}

theorem Telling.option (h : Telling f) : Telling (Description.option f) := by
  intro a b s t heq
  cases a with
  | none =>
    cases b with
    | none => simpa [Description.option] using heq
    | some b => simp [Description.option] at heq
  | some a =>
    cases b with
    | none => simp [Description.option] at heq
    | some b =>
      simp only [Description.option, String.toList_append, List.append_assoc,
        List.append_cancel_left_eq] at heq
      obtain ⟨rfl, hrest⟩ := h a b _ _ heq
      exact ⟨rfl, List.append_cancel_left hrest⟩

end

/-- A secret tells whether it is there. -/
theorem Description.secret_append {a b : Option String} {s t : List Char}
    (h : (secret a).toList ++ s = (secret b).toList ++ t) : a.isSome = b.isSome ∧ s = t := by
  have hredacted : Telling fun _ : Unit => redacted := by
    intro _ _ s t hs
    exact ⟨rfl, List.append_cancel_left hs⟩
  have hsecret : ∀ o : Option String,
      secret o = option (fun _ : Unit => redacted) (o.map fun _ => ()) := by
    intro o
    cases o <;> rfl
  rw [hsecret, hsecret] at h
  obtain ⟨hmap, hrest⟩ := hredacted.option _ _ s t h
  exact ⟨by simpa using congrArg Option.isSome hmap, hrest⟩

/-- Nothing else of a secret goes into what is written for it. -/
theorem Description.secret_congr {a b : Option String} (h : a.isSome = b.isSome) :
    secret a = secret b := by
  cases a with
  | none =>
    cases b with
    | none => rfl
    | some b => cases h
  | some a =>
    cases b with
    | none => cases h
    | some b => rfl

theorem Factor.describe_telling : Telling Factor.describe := by
  intro a b s t h
  cases a <;> cases b <;> simp_all [Factor.describe]

/-! ## Descriptions -/

namespace Description

/-- What stands in a description behind the value of a field. -/
def remainder : List (String × String) → List Char
  | [] => " \x7d".toList
  | f :: fields => ", ".toList ++ (f.1 ++ ": ").toList ++ (f.2.toList ++ remainder fields)

theorem remainder_inj {name text text' : String} {fields fields' : List (String × String)} :
    remainder ((name, text) :: fields) = remainder ((name, text') :: fields') ↔
      text.toList ++ remainder fields = text'.toList ++ remainder fields' := by
  rw [remainder, remainder, List.append_cancel_left_eq]

theorem fields_toList (f : String × String) (fields : List (String × String)) :
    (String.intercalate ", " ((f :: fields).map fun f => f.1 ++ ": " ++ f.2)).toList ++
        " \x7d".toList =
      (f.1 ++ ": ").toList ++ (f.2.toList ++ remainder fields) := by
  induction fields generalizing f with
  | nil => simp [remainder]
  | cons g fields ih =>
    have hrest := ih g
    rw [String.toList_intercalate] at hrest ⊢
    simp only [List.map_cons, List.intercalate_cons_cons, List.append_assoc] at hrest ⊢
    rw [hrest, remainder]
    simp

theorem record_inj {name field text text' : String} {fields fields' : List (String × String)} :
    record name ((field, text) :: fields) = record name ((field, text') :: fields') ↔
      text.toList ++ remainder fields = text'.toList ++ remainder fields' := by
  rw [← String.toList_inj]
  simp only [record, String.toList_append, List.append_assoc, List.append_cancel_left_eq]
  have hfields := fields_toList (field, text) fields
  have hfields' := fields_toList (field, text') fields'
  rw [hfields, hfields', List.append_cancel_left_eq]

/-- A number with another field behind it. -/
theorem number_append {n m : Nat} {f g : String × String} {fields fields' : List (String × String)}
    (h : (toString n).toList ++ remainder (f :: fields) =
      (toString m).toList ++ remainder (g :: fields')) :
    n = m ∧ remainder (f :: fields) = remainder (g :: fields') := by
  have hdigits : ∀ k : Nat, (toString k).toList = Nat.toDigits 10 k :=
    fun k => String.toList_ofList
  rw [hdigits, hdigits] at h
  obtain ⟨hn, hrest⟩ := Text.toDigits_append_inj (c := ',') (by decide) (by decide) (by decide) h
  exact ⟨hn, congrArg (',' :: ·) hrest⟩

end Description

open Description (record_inj remainder_inj secret_append secret_congr number_append)

theorem Credentials.describe_eq_iff {c c' : Credentials} :
    c.describe = c'.describe ↔ c.email = c'.email ∧ c.totp.isSome = c'.totp.isSome := by
  constructor
  · intro h
    obtain ⟨hemail, hrest⟩ := Text.quote_telling _ _ _ _ (record_inj.mp h)
    have htotp := List.append_cancel_left (remainder_inj.mp hrest)
    obtain ⟨hsome, _⟩ := secret_append (remainder_inj.mp htotp)
    exact ⟨hemail, hsome⟩
  · rintro ⟨hemail, htotp⟩
    rw [describe, describe, hemail, secret_congr htotp]

theorem Enrollment.describe_eq_iff {e e' : Enrollment} :
    e.describe = e'.describe ↔ e.machineId = e'.machineId ∧ e.clientId = e'.clientId ∧
      e.accessToken.isSome = e'.accessToken.isSome := by
  constructor
  · intro h
    obtain ⟨hmachine, hrest⟩ := Text.quote_telling _ _ _ _ (record_inj.mp h)
    obtain ⟨hclient, hrest⟩ := Text.quote_telling _ _ _ _ (remainder_inj.mp hrest)
    have htoken := List.append_cancel_left (remainder_inj.mp hrest)
    obtain ⟨hsome, _⟩ := secret_append (remainder_inj.mp htoken)
    exact ⟨hmachine, hclient, hsome⟩
  · rintro ⟨hmachine, hclient, htoken⟩
    rw [describe, describe, hmachine, hclient, secret_congr htoken]

theorem MachineToken.describe_eq_iff {t t' : MachineToken} :
    t.describe = t'.describe ↔ t.expiresIn = t'.expiresIn ∧ t.scheme = t'.scheme := by
  constructor
  · intro h
    have hrest := List.append_cancel_left (record_inj.mp h)
    obtain ⟨hexpires, hrest⟩ := number_append (remainder_inj.mp hrest)
    obtain ⟨hscheme, _⟩ := Text.quote_telling _ _ _ _ (remainder_inj.mp hrest)
    exact ⟨UInt64.toNat_inj.mp hexpires, hscheme⟩
  · rintro ⟨hexpires, hscheme⟩
    rw [describe, describe, hexpires, hscheme]

/-- Two settings that agree but for the token, and on whether there is one. -/
theorem Config.describe_congr {c c' : Config}
    (h : { c with accessToken := none } = { c' with accessToken := none })
    (ht : c.accessToken.isSome = c'.accessToken.isSome) : c.describe = c'.describe := by
  obtain ⟨endpoint, clientId, token, connect, request, retries, delay⟩ := c
  obtain ⟨endpoint', clientId', token', connect', request', retries', delay'⟩ := c'
  simp only [Config.mk.injEq] at h
  obtain ⟨rfl, rfl, _, rfl, rfl, rfl, rfl⟩ := h
  rw [describe, describe, secret_congr ht]

/-- Nothing of a step-up input is withheld. -/
theorem StepUp.describe_eq_iff {s s' : StepUp} : s.describe = s'.describe ↔ s = s' := by
  constructor
  · intro h
    obtain ⟨hfactor, hrest⟩ := Factor.describe_telling _ _ _ _ (record_inj.mp h)
    obtain ⟨hvalue, _⟩ := Text.quote_telling.option _ _ _ _ (remainder_inj.mp hrest)
    obtain ⟨factor, value⟩ := s
    obtain ⟨factor', value'⟩ := s'
    simp only at hfactor hvalue
    rw [hfactor, hvalue]
  · rintro rfl
    rfl

/-- **What descriptions show.** Those of credentials, settings, enrolled machines and
machine tokens are the same for two values that differ in their secrets only and agree on
which of these are there; the first, the third and the fourth show everything else. That
of a step-up input withholds nothing: it shows the code. -/
theorem shown_exactly (c c' : Credentials) (k k' : Config) (e e' : Enrollment)
    (t t' : MachineToken) (s s' : StepUp) :
    (c.describe = c'.describe ↔ c.email = c'.email ∧ c.totp.isSome = c'.totp.isSome) ∧
    ({ k with accessToken := none } = { k' with accessToken := none } →
      k.accessToken.isSome = k'.accessToken.isSome → k.describe = k'.describe) ∧
    (e.describe = e'.describe ↔ e.machineId = e'.machineId ∧ e.clientId = e'.clientId ∧
      e.accessToken.isSome = e'.accessToken.isSome) ∧
    (t.describe = t'.describe ↔ t.expiresIn = t'.expiresIn ∧ t.scheme = t'.scheme) ∧
    (s.describe = s'.describe ↔ s = s') := by
  refine ⟨?_, ?_, ?_, ?_, ?_⟩
  · exact Credentials.describe_eq_iff
  · exact Config.describe_congr
  · exact Enrollment.describe_eq_iff
  · exact MachineToken.describe_eq_iff
  · exact StepUp.describe_eq_iff

/-- The code of a step-up input stands in its description. -/
theorem code_shown :
    let s : StepUp := ⟨.totp, some "654321"⟩
    let s' : StepUp := ⟨.totp, some "123456"⟩
    s.factor = s'.factor ∧ s.value.isSome = s'.value.isSome ∧
      s.describe = "StrengthenInput \x7b factor: Totp, value: Some(\"654321\") \x7d" ∧
      s.describe ≠ s'.describe := by
  decide

end SignOn
