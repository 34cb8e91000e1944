import SignOn.Proofs.Json.Inside

/-!
A text says one thing only, and it shows where a value ends.

* `Numeral.Written.sole`: what a number is, and what is left behind it;
* `ItemsLeft.sole`, `MembersLeft.sole`: the inside of a list and of an object;
* `Lexeme.Front.tells_number`, `Lexeme.Front.tells_list`, `Lexeme.Front.tells_object`,
  `Lexeme.Front.tells_scalar`: what the front of a value tells of it;
* `Written.sole`: any value;
* `Written.unambiguous`: whole documents.
-/

namespace SignOn.Json

variable {d d' : Datum} {s s' rest rest' : List UInt8}

/-- At the front of a text that begins with `s`, this value stands and no other one, and
what is left behind it is clear as well. -/
def Sole (d : Datum) (s : List UInt8) : Prop :=
  ∀ ⦃d' : Datum⦄ ⦃s' rest rest' : List UInt8⦄, Written (.value d') s' → Stops rest →
    Stops rest' → s ++ rest = s' ++ rest' → d = d' ∧ rest = rest'

/-! ## Scalars -/

theorem Numeral.Written.sole {n n' : Numeral} (h : n.Written s) (h' : n'.Written s')
    (ht : Stops rest) (ht' : Stops rest') (heq : s ++ rest = s' ++ rest') :
    n = n' ∧ rest = rest' := by
  have hscan := Numeral.scan_written .badNumber h ht
  rw [heq, Numeral.scan_written .badNumber h' ht'] at hscan
  cases hscan
  exact ⟨rfl, rfl⟩

/-- Apart from numbers, what is read of a scalar tells which one it is. -/
theorem Datum.lexeme?_inj (h : d.lexeme? = d'.lexeme?) (hs : d.lexeme?.isSome)
    (hn : ∀ n, d ≠ .number n) (hn' : ∀ n, d' ≠ .number n) : d = d' := by
  cases d <;> cases d' <;> simp_all [Datum.lexeme?]

/-! ## Insides -/

/-- A value begins behind the blanks in front of it. -/
theorem dropBlank_value {w v : List UInt8} (hw : Blanks w) (hv : Written (.value d) v)
    (t : List UInt8) : dropBlank (w ++ (v ++ t)) = v ++ t := by
  obtain ⟨b, more, rfl, hb, _⟩ := hv.head
  rw [dropBlank_blanks hw]
  exact dropBlank_cons hb _

/-- Of what is left of a list, the next item is told first, and then what is left behind
it. -/
theorem ItemsLeft.sole {isFirst : Bool} {ds ds' : List Datum} (h : ItemsLeft isFirst ds s)
    (hsole : ∀ d v, Written (.value d) v → v.length ≤ s.length → Sole d v)
    (h' : ItemsLeft isFirst ds' s')
    (heq : s ++ Byte.closeList :: rest = s' ++ Byte.closeList :: rest') :
    ds = ds' ∧ rest = rest' := by
  induction h generalizing ds' s' with
  | @none isFirst w hw =>
    cases h' with
    | none hw' =>
      have hclose := Items.close_none hw rest
      rw [heq, Items.close_none hw' rest'] at hclose
      cases hclose
      exact ⟨rfl, rfl⟩
    | more hl hv _ =>
      have hnext := Items.nextItem_none hw isFirst rest
      rw [heq, List.append_assoc, List.append_assoc, Items.nextItem_more hl hv] at hnext
      cases hnext
  | @more isFirst d ds w v s hl hv hleft ih =>
    have hnext := Items.nextItem_more hl hv (s ++ Byte.closeList :: rest)
    rw [List.append_assoc, List.append_assoc] at heq
    rw [heq] at hnext
    cases h' with
    | none hw' =>
      rw [Items.nextItem_none hw' isFirst rest'] at hnext
      cases hnext
    | @more _ d' ds' w' v' s' hl' hv' hleft' =>
      rw [List.append_assoc, List.append_assoc, Items.nextItem_more hl' hv'] at hnext
      have hitem := Option.some.inj (Except.ok.inj hnext)
      obtain ⟨rfl, hrest⟩ := hsole d v hv (by simp; omega) hv' (hleft.stops rest)
        (hleft'.stops rest') hitem.symm
      obtain ⟨rfl, hrest⟩ := ih (fun d u hu hle => hsole d u hu (by simp; omega)) hleft' hrest
      exact ⟨rfl, hrest⟩

theorem MembersLeft.sole {isFirst : Bool} {ms ms' : List (String × Datum)}
    (h : MembersLeft isFirst ms s)
    (hsole : ∀ d v, Written (.value d) v → v.length ≤ s.length → Sole d v)
    (h' : MembersLeft isFirst ms' s')
    (heq : s ++ Byte.closeObject :: rest = s' ++ Byte.closeObject :: rest') :
    ms = ms' ∧ rest = rest' := by
  induction h generalizing ms' s' with
  | @none isFirst w hw =>
    have hnext := Record.nextName_none hw isFirst rest
    rw [heq] at hnext
    cases h' with
    | none hw' =>
      rw [Record.nextName_none hw' isFirst rest'] at hnext
      cases hnext
      exact ⟨rfl, rfl⟩
    | more hl hk _ _ _ _ =>
      simp only [List.append_assoc, List.cons_append, Record.nextName_more hl hk] at hnext
      cases hnext
  | @more isFirst name d ms w k w' w'' v s hl hk hw hw' hv hleft ih =>
    have hnext := Record.nextName_more hl hk
      (w' ++ Byte.colon :: (w'' ++ (v ++ (s ++ Byte.closeObject :: rest))))
    simp only [List.append_assoc, List.cons_append] at heq
    rw [heq] at hnext
    cases h' with
    | none hu =>
      rw [Record.nextName_none hu isFirst rest'] at hnext
      cases hnext
    | @more _ name' d' ms' u k' u' u'' v' s' hl' hk' hu hu' hv' hleft' =>
      simp only [List.append_assoc, List.cons_append, Record.nextName_more hl' hk'] at hnext
      obtain ⟨hname, hbehind⟩ := Prod.mk.inj (Except.ok.inj hnext)
      cases hname
      have hcolon := Skip.colon_blanks hw (w'' ++ (v ++ (s ++ Byte.closeObject :: rest)))
      rw [← hbehind, Skip.colon_blanks hu] at hcolon
      have hvalue := dropBlank_value hw' hv (s ++ Byte.closeObject :: rest)
      rw [← Except.ok.inj hcolon, dropBlank_value hu' hv'] at hvalue
      obtain ⟨rfl, hrest⟩ := hsole d v hv (by simp; omega) hv' (hleft.stops rest)
        (hleft'.stops rest') hvalue.symm
      obtain ⟨rfl, hrest⟩ := ih (fun d u hu hle => hsole d u hu (by simp; omega)) hleft' hrest
      exact ⟨rfl, hrest⟩

/-! ## Values -/

namespace Lexeme.Front

variable {r : Reading Lexeme}

/-- The front tells a number from anything else, even if it cannot be held. -/
theorem tells_number {n : Numeral} (h : Front rest (.number n) r) (h' : Front rest' d' r) :
    ∃ n', d' = .number n' := by
  cases h with
  | scalar hl =>
    obtain ⟨x, _, rfl⟩ := Option.map_eq_some_iff.mp hl
    cases h' with
    | scalar hl' =>
      cases d' with
      | number n' => exact ⟨n', rfl⟩
      | null | flag b | text t | list ds | object ms => cases hl'
  | unheld =>
    cases h' with
    | unheld hl' hlist hobject =>
      cases d' with
      | number n' => exact ⟨n', rfl⟩
      | null | flag b | text t => cases hl'
      | list ds => exact absurd rfl (hlist ds)
      | object ms => exact absurd rfl (hobject ms)

theorem tells_list {ds : List Datum} (h : Front rest (.list ds) r) (h' : Front rest' d' r) :
    ∃ ds', d' = .list ds' := by
  generalize hr : r = r' at h'
  cases h with
  | scalar hl => cases hl
  | unheld _ hlist _ => exact absurd rfl (hlist ds)
  | list _ =>
    cases h' with
    | scalar hl' =>
      cases hr
      exact absurd rfl (Datum.lexeme?_ne hl').1
    | unheld _ _ _ => cases hr
    | list _ => exact ⟨_, rfl⟩
    | object _ => cases hr

theorem tells_object {ms : List (String × Datum)} (h : Front rest (.object ms) r)
    (h' : Front rest' d' r) : ∃ ms', d' = .object ms' := by
  generalize hr : r = r' at h'
  cases h with
  | scalar hl => cases hl
  | unheld _ _ hobject => exact absurd rfl (hobject ms)
  | object _ =>
    cases h' with
    | scalar hl' =>
      cases hr
      exact absurd rfl (Datum.lexeme?_ne hl').2
    | unheld _ _ _ => cases hr
    | list _ => cases hr
    | object _ => exact ⟨_, rfl⟩

/-- Of any other scalar the front tells all. -/
theorem tells_scalar {l : Lexeme} (hl : d.lexeme? = some l) (hn : ∀ n, d ≠ .number n)
    (h : Front rest d r) (h' : Front rest' d' r) : d = d' ∧ rest = rest' := by
  have hn' : ∀ n, d' ≠ .number n := by
    rintro n rfl
    obtain ⟨n', rfl⟩ := h'.tells_number h
    exact hn n' rfl
  cases h with
  | unheld hno _ _ =>
    rw [hl] at hno
    cases hno
  | list _ => cases hl
  | object _ => cases hl
  | scalar hd =>
    cases h' with
    | scalar hd' => exact ⟨Datum.lexeme?_inj (hd.trans hd'.symm) (by rw [hl]; rfl) hn hn', rfl⟩
    | list _ => exact absurd rfl (Datum.lexeme?_ne hd).1
    | object _ => exact absurd rfl (Datum.lexeme?_ne hd).2

end Lexeme.Front

/-- **At the front of a text stands one value.** The induction is on its length, as
what is left inside a bracket is no part of how the value was written. -/
theorem Written.sole (h : Written (.value d) s) : Sole d s := by
  induction hlen : s.length using Nat.strongRecOn generalizing d s with
  | ind len ih =>
    subst hlen
    intro d' s' rest rest' h' ht ht' heq
    have hfront := Lexeme.read_written h blanks_nil ht
    have hfront' := Lexeme.read_written h' blanks_nil ht'
    rw [heq] at hfront
    generalize Lexeme.read ([] ++ (s' ++ rest')) = r at hfront hfront'
    cases d with
    | null => exact Lexeme.Front.tells_scalar rfl (by simp) hfront hfront'
    | flag b => exact Lexeme.Front.tells_scalar rfl (by simp) hfront hfront'
    | text t => exact Lexeme.Front.tells_scalar rfl (by simp) hfront hfront'
    | number n =>
      obtain ⟨n', rfl⟩ := hfront.tells_number hfront'
      cases h with
      | number hn =>
        cases h' with
        | number hn' =>
          obtain ⟨rfl, hrest⟩ := hn.sole hn' ht ht' heq
          exact ⟨rfl, hrest⟩
    | list ds =>
      obtain ⟨ds', rfl⟩ := hfront.tells_list hfront'
      obtain ⟨t, rfl, hleft⟩ := ItemsLeft.of_list h
      obtain ⟨t', rfl, hleft'⟩ := ItemsLeft.of_list h'
      simp only [List.cons_append, List.append_assoc, List.cons.injEq, true_and] at heq
      have hsole : ∀ d v, Written (.value d) v → v.length ≤ t.length → Sole d v := by
        intro d v hv hle
        exact ih v.length (by simp; omega) hv rfl
      obtain ⟨rfl, hrest⟩ := hleft.sole hsole hleft' heq
      exact ⟨rfl, hrest⟩
    | object ms =>
      obtain ⟨ms', rfl⟩ := hfront.tells_object hfront'
      obtain ⟨t, rfl, hleft⟩ := MembersLeft.of_object h
      obtain ⟨t', rfl, hleft'⟩ := MembersLeft.of_object h'
      simp only [List.cons_append, List.append_assoc, List.cons.injEq, true_and] at heq
      have hsole : ∀ d v, Written (.value d) v → v.length ≤ t.length → Sole d v := by
        intro d v hv hle
        exact ih v.length (by simp; omega) hv rfl
      obtain ⟨rfl, hrest⟩ := hleft.sole hsole hleft' heq
      exact ⟨rfl, hrest⟩

/-- **A document says one thing only.** -/
theorem Written.unambiguous (h : Written (.padded d) s) (h' : Written (.padded d') s) :
    d = d' := by
  generalize heq : s = s' at h'
  cases h with
  | @padded _ w v u hw hv hu =>
    cases h' with
    | @padded _ w' v' u' hw' hv' hu' =>
      have hvalue := dropBlank_value hw hv u
      rw [heq, dropBlank_value hw' hv' u'] at hvalue
      exact (hv.sole hv' (stops_blanks hu) (stops_blanks hu') hvalue.symm).1

end SignOn.Json
