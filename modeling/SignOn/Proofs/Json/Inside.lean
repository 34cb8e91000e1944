import SignOn.Json.Record
import SignOn.Proofs.Json.Passing

/-!
The inside of a list or an object while it is read: what is left up to the closing
bracket, from a point behind the opening one or behind a value.

* `ItemsLeft`, `MembersLeft`: the texts that may be left, with `ItemsLeft.of_items` and
  `MembersLeft.of_members` for all that stands between the brackets;
* `Items.nextItem_more`, `Record.nextName_more`: the next item and the next name are
  found behind blanks and a comma;
* `Lexeme.read_written`: the front of a value.
-/

namespace SignOn.Json

variable {w s t v rest : List UInt8} {d : Datum} {ds : List Datum} {name : String}
  {ms : List (String × Datum)} {isFirst : Bool}

/-! ## What is left -/

/-- What stands in front of an item or a member: blanks, and a comma among them
unless it is the first. -/
inductive Lead : Bool → List UInt8 → Prop
  | first {w : List UInt8} : Blanks w → Lead true w
  | later {w w' : List UInt8} : Blanks w → Blanks w' → Lead false (w ++ Byte.comma :: w')

/-- The items that are left in a list, up to its closing bracket. -/
inductive ItemsLeft : Bool → List Datum → List UInt8 → Prop
  | none {isFirst : Bool} {w : List UInt8} : Blanks w → ItemsLeft isFirst [] w
  | more {isFirst : Bool} {d : Datum} {ds : List Datum} {w v s : List UInt8} :
      Lead isFirst w → Written (.value d) v → ItemsLeft false ds s →
      ItemsLeft isFirst (d :: ds) (w ++ (v ++ s))

/-- The members that are left in an object, up to its closing bracket. -/
inductive MembersLeft : Bool → List (String × Datum) → List UInt8 → Prop
  | none {isFirst : Bool} {w : List UInt8} : Blanks w → MembersLeft isFirst [] w
  | more {isFirst : Bool} {name : String} {d : Datum} {ms : List (String × Datum)}
      {w k w' w'' v s : List UInt8} :
      Lead isFirst w → Spelt name.toList k → Blanks w' → Blanks w'' → Written (.value d) v →
      MembersLeft false ms s →
      MembersLeft isFirst ((name, d) :: ms)
        (w ++ Byte.quote :: (k ++ Byte.quote :: (w' ++ Byte.colon :: (w'' ++ (v ++ s)))))

theorem dropBlank_comma (hw : Blanks w) (w' t : List UInt8) :
    dropBlank (w ++ Byte.comma :: w' ++ t) = Byte.comma :: (w' ++ t) := by
  rw [List.append_assoc, dropBlank_blanks hw]
  rfl

theorem Lead.behindComma {w' : List UInt8} (hw : Blanks w) (hw' : Blanks w') :
    Lead false ((w ++ [Byte.comma]) ++ w') := by
  rw [List.append_assoc]
  exact .later hw hw'

/-- Nothing that may stand behind a value goes on with a number. -/
theorem Lead.stops (h : Lead false w) (t : List UInt8) : Stops (w ++ t) := by
  cases h with
  | later hw _ =>
    rw [List.append_assoc]
    exact (stops_cons (by decide) _).blanks hw

theorem ItemsLeft.stops (h : ItemsLeft false ds s) (rest : List UInt8) :
    Stops (s ++ Byte.closeList :: rest) := by
  cases h with
  | none hw => exact (stops_cons (by decide) _).blanks hw
  | more hl _ _ =>
    rw [List.append_assoc]
    exact hl.stops _

theorem MembersLeft.stops (h : MembersLeft false ms s) (rest : List UInt8) :
    Stops (s ++ Byte.closeObject :: rest) := by
  cases h with
  | none hw => exact (stops_cons (by decide) _).blanks hw
  | more hl _ _ _ _ _ =>
    rw [List.append_assoc]
    exact hl.stops _

/-- All items of a list are left at first. The induction goes over the items, so
what is in front of them may be blanks or a comma. -/
theorem ItemsLeft.of_items (h : Written (.items ds) s) (t : List UInt8)
    (hl : ∀ w, Blanks w → Lead isFirst (t ++ w)) : ItemsLeft isFirst ds (t ++ s) := by
  induction ds generalizing isFirst s t with
  | nil => cases h
  | cons d ds ih =>
    cases h with
    | oneItem hd =>
      cases hd with
      | padded hw hv hw' =>
        rw [← List.append_assoc]
        exact .more (hl _ hw) hv (.none hw')
    | @moreItems _ _ s₁ s₂ hd hs =>
      cases hd with
      | @padded _ w v w' hw hv hw' =>
        have hmore := ih hs (w' ++ [Byte.comma]) fun _ => .behindComma hw'
        have hall := ItemsLeft.more (hl w hw) hv hmore
        simpa only [List.append_assoc, List.cons_append, List.nil_append] using hall

theorem MembersLeft.of_members (h : Written (.members ms) s) (t : List UInt8)
    (hl : ∀ w, Blanks w → Lead isFirst (t ++ w)) : MembersLeft isFirst ms (t ++ s) := by
  induction ms generalizing isFirst s t with
  | nil => cases h
  | cons m ms ih =>
    cases h with
    | oneMember hm =>
      cases hm with
      | @member _ _ w k w' s hw hk hw' hd =>
        cases hd with
        | padded hv hd hv' =>
          have hall := MembersLeft.more (hl w hw) hk hw' hv hd (.none hv')
          simpa only [List.append_assoc, List.cons_append, List.nil_append] using hall
    | @moreMembers _ _ _ s₁ s₂ hm hs =>
      cases hm with
      | @member _ _ w k w' s hw hk hw' hd =>
        cases hd with
        | @padded _ v₁ v v₂ hv hd hv' =>
          have hmore := ih hs (v₂ ++ [Byte.comma]) fun _ => .behindComma hv'
          have hall := MembersLeft.more (hl w hw) hk hw' hv hd hmore
          simpa only [List.append_assoc, List.cons_append, List.nil_append] using hall

theorem ItemsLeft.of_list (h : Written (.value (.list ds)) s) :
    ∃ t, s = Byte.openList :: (t ++ [Byte.closeList]) ∧ ItemsLeft true ds t := by
  cases h with
  | emptyList hw => exact ⟨_, rfl, .none hw⟩
  | list hs => exact ⟨_, rfl, .of_items hs [] fun _ => .first⟩

theorem MembersLeft.of_object (h : Written (.value (.object ms)) s) :
    ∃ t, s = Byte.openObject :: (t ++ [Byte.closeObject]) ∧ MembersLeft true ms t := by
  cases h with
  | emptyObject hw => exact ⟨_, rfl, .none hw⟩
  | object hs => exact ⟨_, rfl, .of_members hs [] fun _ => .first⟩

/-! ## The next one -/

namespace Items

theorem nextItem_none (hw : Blanks w) (isFirst : Bool) (rest : List UInt8) :
    nextItem isFirst (w ++ Byte.closeList :: rest) = .ok none := by
  rw [nextItem, dropBlank_blanks hw]
  rfl

theorem close_none (hw : Blanks w) (rest : List UInt8) :
    close (w ++ Byte.closeList :: rest) = .ok rest := by
  rw [close, dropBlank_blanks hw]
  rfl

theorem nextItem_more (hl : Lead isFirst w) (hv : Written (.value d) v) (t : List UInt8) :
    nextItem isFirst (w ++ (v ++ t)) = .ok (some (v ++ t)) := by
  obtain ⟨b, more, rfl, hb, hc, _⟩ := hv.head
  have hdrop : dropBlank (b :: (more ++ t)) = b :: (more ++ t) := dropBlank_cons hb _
  cases hl with
  | first hw =>
    simp only [nextItem, List.cons_append, dropBlank_blanks hw, hdrop, hc, if_true, if_false]
  | @later w w' hw hw' =>
    have hne : Byte.comma ≠ Byte.closeList := by decide
    simp only [nextItem, dropBlank_comma hw, hne, dropBlank_blanks hw', List.cons_append, hdrop, hc,
      Bool.false_eq_true, if_true, if_false]

/-- With an item left the closing bracket is missed. -/
theorem close_more (hl : Lead isFirst w) (hv : Written (.value d) v) (t : List UInt8) :
    ∃ e, close (w ++ (v ++ t)) = .error e := by
  obtain ⟨b, more, rfl, hb, hc, _⟩ := hv.head
  cases hl with
  | first hw =>
    have hdrop : dropBlank (w ++ (b :: more ++ t)) = b :: (more ++ t) := by
      rw [dropBlank_blanks hw]
      exact dropBlank_cons hb _
    simp only [close, hdrop, hc, if_false]
    split
    · exact ⟨_, rfl⟩
    · exact ⟨_, rfl⟩
  | later hw _ =>
    have hne : Byte.comma ≠ Byte.closeList := by decide
    simp only [close, dropBlank_comma hw, hne, if_false, if_true]
    exact ⟨_, rfl⟩

end Items

namespace Record

theorem nextName_none (hw : Blanks w) (isFirst : Bool) (rest : List UInt8) :
    nextName isFirst (w ++ Byte.closeObject :: rest) = .ok (none, rest) := by
  rw [nextName, dropBlank_blanks hw]
  rfl

theorem nextName_more {k : List UInt8} (hl : Lead isFirst w) (hk : Spelt name.toList k)
    (t : List UInt8) :
    nextName isFirst (w ++ Byte.quote :: (k ++ Byte.quote :: t)) = .ok (some name, t) := by
  have hread := StringLiteral.read_spelt t hk
  have hdrop : ∀ s, dropBlank (Byte.quote :: s) = Byte.quote :: s := fun _ => rfl
  cases hl with
  | first hw =>
    have hne : Byte.quote ≠ Byte.closeObject := by decide
    simp only [nextName, dropBlank_blanks hw, hdrop, hne, if_true, if_false, hread]
    rfl
  | later hw hw' =>
    have hne : Byte.comma ≠ Byte.closeObject := by decide
    simp only [nextName, dropBlank_comma hw, hne, dropBlank_blanks hw', hdrop, Bool.false_eq_true,
      if_true, if_false, hread]
    rfl

end Record

/-! ## The front of a value -/

/-- A scalar whose value can be held. -/
def Datum.lexeme? : Datum → Option Lexeme
  | .null => some .null
  | .flag b => some (.flag b)
  | .number n => n.value.toOption.map .number
  | .text t => some (.text t)
  | .list _ => none
  | .object _ => none

/-- No scalar is an opening bracket. -/
theorem Datum.lexeme?_ne {l : Lexeme} (h : d.lexeme? = some l) :
    l ≠ .openList ∧ l ≠ .openObject := by
  cases d with
  | number n =>
    obtain ⟨x, _, rfl⟩ := Option.map_eq_some_iff.mp h
    exact ⟨by simp, by simp⟩
  | null | flag b | text t =>
    cases h
    exact ⟨by simp, by simp⟩
  | list ds | object ms => cases h

namespace Lexeme

/-- What reading the front of a value gives. A scalar is all front, and refused at
once if it cannot be held; behind an opening bracket all is left. -/
inductive Front (rest : List UInt8) : Datum → Reading Lexeme → Prop
  | scalar {d : Datum} {l : Lexeme} : d.lexeme? = some l → Front rest d (.ok (l, rest))
  | unheld {d : Datum} {e : Fault} : d.lexeme? = none → (∀ ds, d ≠ .list ds) →
      (∀ ms, d ≠ .object ms) → Front rest d (.error e)
  | list {ds : List Datum} {t : List UInt8} : ItemsLeft true ds t →
      Front rest (.list ds) (.ok (.openList, t ++ Byte.closeList :: rest))
  | object {ms : List (String × Datum)} {t : List UInt8} : MembersLeft true ms t →
      Front rest (.object ms) (.ok (.openObject, t ++ Byte.closeObject :: rest))

theorem read_number {n : Numeral} (h : n.Written s) (ht : Stops rest) :
    Front rest (.number n) (read (s ++ rest)) := by
  have hfront : Front rest (.number n) ((Number.read (s ++ rest)).map .number) := by
    rw [Number.read, Numeral.scan_written _ h ht]
    cases hv : n.value with
    | ok x =>
      simp only [hv]
      exact .scalar (by rw [Datum.lexeme?, hv]; rfl)
    | error u =>
      simp only [hv]
      exact .unheld (by rw [Datum.lexeme?, hv]; rfl) (by simp) (by simp)
  obtain ⟨b, more, rfl, hb⟩ := h.head
  have hne : ∀ c, Numeral.startsWith c = false → b ≠ c := fun c => Numeral.startsWith_ne hb
  rw [List.cons_append] at hfront ⊢
  simp only [read, dropBlank_cons (Numeral.startsWith_notBlank hb), hne 0x6E (by decide),
    hne 0x74 (by decide), hne 0x66 (by decide), hne Byte.quote (by decide),
    hne Byte.openList (by decide), hne Byte.openObject (by decide), hb, if_true, if_false]
  exact hfront

theorem read_text {t : String} (h : Spelt t.toList s) :
    read (Byte.quote :: (s ++ [Byte.quote]) ++ rest) = .ok (.text t, rest) := by
  have hread : read (Byte.quote :: (s ++ Byte.quote :: rest)) =
      (StringLiteral.read (s ++ Byte.quote :: rest)).map .text := rfl
  rw [List.cons_append, List.append_assoc, List.singleton_append, hread,
    StringLiteral.read_spelt rest h]
  rfl

/-- **The front of every value**, behind blanks. -/
theorem read_written (h : Written (.value d) s) (hw : Blanks w) (ht : Stops rest) :
    Front rest d (read (w ++ (s ++ rest))) := by
  have hblanks : read (w ++ (s ++ rest)) = read (s ++ rest) := by
    simp only [read, dropBlank_blanks hw]
  rw [hblanks]
  cases d with
  | null =>
    cases h
    exact .scalar rfl
  | flag b =>
    cases h
    · exact .scalar rfl
    · exact .scalar rfl
  | number n =>
    cases h with
    | number hn => exact read_number hn ht
  | text t =>
    cases h with
    | text hs =>
      rw [read_text hs]
      exact .scalar rfl
  | list ds =>
    obtain ⟨t, rfl, ht⟩ := ItemsLeft.of_list h
    rw [List.cons_append, List.append_assoc]
    exact .list ht
  | object ms =>
    obtain ⟨t, rfl, ht⟩ := MembersLeft.of_object h
    rw [List.cons_append, List.append_assoc]
    exact .object ht

end Lexeme

end SignOn.Json
