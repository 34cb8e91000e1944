import SignOn.Json.Skip
import SignOn.Proofs.Json.Strings
import SignOn.Proofs.Json.Numbers

/-!
A value that nobody asked for is passed over, whatever it is and however it is
written.

* `Written.head`, `Written.items_head`, `Written.members_head`: what a stretch of a
  text begins with;
* `Skip.passed`: a run inside any brackets gets past every phrase;
* `skip_written`: `skip` returns the rest behind a value.
-/

namespace SignOn.Json

/-! ## Blanks -/

variable {w s t rest : List UInt8}

theorem dropBlank_blanks (h : Blanks w) (s : List UInt8) : dropBlank (w ++ s) = dropBlank s :=
  List.dropWhile_append_of_pos h

theorem dropBlank_eq_nil (h : Blanks w) : dropBlank w = [] := by
  have hw := dropBlank_blanks h []
  rwa [List.append_nil] at hw

theorem dropBlank_cons {b : UInt8} (h : isBlank b = false) (s : List UInt8) :
    dropBlank (b :: s) = b :: s := by
  rw [dropBlank, List.dropWhile_cons_of_neg (by simp [h])]

theorem dropBlank_dropBlank (s : List UInt8) : dropBlank (dropBlank s) = dropBlank s := by
  induction s with
  | nil => rfl
  | cons b s ih =>
    cases hb : isBlank b with
    | true =>
      have hdrop : dropBlank (b :: s) = dropBlank s := List.dropWhile_cons_of_pos hb
      rw [hdrop, ih]
    | false => rw [dropBlank_cons hb, dropBlank_cons hb]

theorem Stops.blanks (hw : Blanks w) (ht : Stops t) : Stops (w ++ t) := by
  cases w with
  | nil => exact ht
  | cons b w =>
    refine stops_cons ?_ _
    have hb : isBlank b = true := hw b List.mem_cons_self
    simp only [isBlank, Bool.or_eq_true, beq_iff_eq] at hb
    rcases hb with ((rfl | rfl) | rfl) | rfl
    all_goals decide

theorem stops_blanks (hw : Blanks w) : Stops w := by
  have hstop := stops_nil.blanks hw
  rwa [List.append_nil] at hstop

/-! ## First bytes -/

variable {d : Datum}

theorem Numeral.startsWith_ne {b c : UInt8} (hb : startsWith b) (hc : startsWith c = false) :
    b ≠ c := by
  rintro rfl
  rw [hc] at hb
  cases hb

theorem Numeral.startsWith_notBlank {b : UInt8} (hb : startsWith b) : isBlank b = false := by
  have hne : ∀ c, startsWith c = false → b ≠ c := fun c => startsWith_ne hb
  simp [isBlank, hne 0x20 (by decide), hne 0x09 (by decide), hne 0x0A (by decide),
    hne 0x0D (by decide)]

/-- A value begins neither with a blank nor with the bracket that closes a list,
and with an `n` only if it is null. -/
theorem Written.head (h : Written (.value d) s) :
    ∃ b more, s = b :: more ∧ isBlank b = false ∧ b ≠ Byte.closeList ∧ (b = 0x6E → d = .null) := by
  cases h with
  | null => exact ⟨_, _, rfl, by decide, by decide, fun _ => rfl⟩
  | number hn =>
    obtain ⟨b, more, rfl, hb⟩ := hn.head
    refine ⟨b, more, rfl, Numeral.startsWith_notBlank hb, ?_, fun h => absurd h ?_⟩
    · exact Numeral.startsWith_ne hb (by decide)
    · exact Numeral.startsWith_ne hb (by decide)
  | yes | no | text _ | emptyList _ | list _ | emptyObject _ | object _ =>
    exact ⟨_, _, rfl, by decide, by decide, fun h => absurd h (by decide)⟩

theorem Written.padded_head (h : Written (.padded d) s) (t : List UInt8) :
    ∃ b more, dropBlank (s ++ t) = b :: more ∧ b ≠ Byte.closeList := by
  cases h with
  | padded hw hv _ =>
    obtain ⟨b, more, rfl, hb, hc, _⟩ := hv.head
    rw [List.append_assoc, dropBlank_blanks hw]
    exact ⟨b, _, dropBlank_cons hb _, hc⟩

theorem Written.items_head {ds : List Datum} (h : Written (.items ds) s) (t : List UInt8) :
    ∃ b more, dropBlank (s ++ t) = b :: more ∧ b ≠ Byte.closeList := by
  cases h with
  | oneItem hd => exact hd.padded_head t
  | moreItems hd _ =>
    rw [List.append_assoc]
    exact hd.padded_head _

theorem Written.member_head {name : String} (h : Written (.member name d) s) (t : List UInt8) :
    ∃ more, dropBlank (s ++ t) = Byte.quote :: more := by
  cases h with
  | member hw _ _ _ =>
    rw [List.append_assoc, dropBlank_blanks hw]
    exact ⟨_, rfl⟩

theorem Written.members_head {ms : List (String × Datum)} (h : Written (.members ms) s)
    (t : List UInt8) : ∃ more, dropBlank (s ++ t) = Byte.quote :: more := by
  cases h with
  | oneMember hm => exact hm.member_head t
  | moreMembers hm _ =>
    rw [List.append_assoc]
    exact hm.member_head _

namespace Skip

/-! ## Steps -/

/-- What a run returns from the point reached: the rest, if a value is complete
outside all brackets, and otherwise what a run from there returns. -/
def settle (q : Point) : Except Fault (List UInt8) :=
  match q.due, q.brackets with
  | .next, [] => .ok q.rest
  | _, _ => run q

theorem run_eq_bind (p : Point) : run p = (step p).bind settle := by
  rw [run]
  split
  · next e h =>
    have hbind : (step p).bind settle = .error e := by
      rw [h]
      rfl
    exact hbind.symm
  · next q h =>
    have hbind : (step p).bind settle = settle q := by
      rw [h]
      rfl
    exact hbind.symm

/-- Inside brackets a run always goes on. -/
theorem settle_inside (b : Bracket) (outer : List Bracket) (due : Due) (s : List UInt8) :
    settle ⟨b :: outer, due, s⟩ = (step ⟨b :: outer, due, s⟩).bind settle := by
  rw [← run_eq_bind]
  cases due with
  | value => rfl
  | first => rfl
  | next => rfl

/-- The byte that closes a bracket. -/
def Bracket.closing : Bracket → UInt8
  | .list => Byte.closeList
  | .object => Byte.closeObject

variable (bs outer : List Bracket)

theorem value_dropBlank (s : List UInt8) : value bs (dropBlank s) = value bs s := by
  simp only [value, dropBlank_dropBlank]

theorem name_dropBlank (s : List UInt8) : name bs (dropBlank s) = name bs s := by
  simp only [name, dropBlank_dropBlank]

theorem inside_blanks (b : Bracket) (isFirst : Bool) (hw : Blanks w) (t : List UInt8) :
    inside b outer isFirst (w ++ t) = inside b outer isFirst t := by
  cases b with
  | list => simp only [inside, dropBlank_blanks hw]
  | object => simp only [inside, dropBlank_blanks hw]

theorem colon_blanks (hw : Blanks w) (t : List UInt8) : colon (w ++ Byte.colon :: t) = .ok t := by
  rw [colon, dropBlank_blanks hw]
  rfl

/-- A closing bracket completes what it closes, behind the opening one or behind a
value inside. -/
theorem settle_closing (b : Bracket) (due : Due) (hdue : due ≠ .value) (hw : Blanks w)
    (t : List UInt8) :
    settle ⟨b :: outer, due, w ++ b.closing :: t⟩ = settle ⟨outer, .next, t⟩ := by
  have hinside : ∀ isFirst, inside b outer isFirst (w ++ b.closing :: t) =
      .ok ⟨outer, .next, t⟩ := by
    intro isFirst
    rw [inside_blanks outer b isFirst hw]
    cases b with
    | list => rfl
    | object => rfl
  have hs : step ⟨b :: outer, due, w ++ b.closing :: t⟩ = .ok ⟨outer, .next, t⟩ := by
    cases due with
    | value => exact absurd rfl hdue
    | first => exact hinside true
    | next => exact hinside false
  rw [settle_inside, hs]
  rfl

/-- Behind a comma the next item is due. -/
theorem settle_nextItem (hw : Blanks w) (t : List UInt8) :
    settle ⟨.list :: outer, .next, w ++ Byte.comma :: t⟩ = run ⟨.list :: outer, .value, t⟩ := by
  have hs : step ⟨.list :: outer, .next, w ++ Byte.comma :: t⟩ =
      .ok ⟨.list :: outer, .value, t⟩ := inside_blanks outer .list false hw _
  rw [settle_inside, hs]
  rfl

/-- Behind a comma the next name is due. -/
theorem settle_nextName (hw : Blanks w) (t : List UInt8) :
    settle ⟨.object :: outer, .next, w ++ Byte.comma :: t⟩ =
      (name (.object :: outer) t).bind settle := by
  have hs : step ⟨.object :: outer, .next, w ++ Byte.comma :: t⟩ = name (.object :: outer) t :=
    inside_blanks outer .object false hw _
  rw [settle_inside, hs]

/-- Behind an opening bracket the first item needs no comma. -/
theorem settle_firstItem {b : UInt8} {more : List UInt8} (hb : dropBlank t = b :: more)
    (hne : b ≠ Byte.closeList) :
    settle ⟨.list :: outer, .first, t⟩ = run ⟨.list :: outer, .value, t⟩ := by
  have hs : step ⟨.list :: outer, .first, t⟩ = step ⟨.list :: outer, .value, t⟩ := by
    simp only [step, inside, hb, hne, if_true, if_false]
    rw [← hb, value_dropBlank]
  rw [settle_inside, hs, ← run_eq_bind]

theorem settle_firstName {more : List UInt8} (hb : dropBlank t = Byte.quote :: more) :
    settle ⟨.object :: outer, .first, t⟩ = (name (.object :: outer) t).bind settle := by
  have hne : Byte.quote ≠ Byte.closeObject := by decide
  have hs : step ⟨.object :: outer, .first, t⟩ = name (.object :: outer) t := by
    simp only [step, inside, hb, hne, if_true, if_false]
    rw [← hb, name_dropBlank]
  rw [settle_inside, hs]

/-! ## Runs -/

/-- What a run does with a phrase. A value is complete behind it, inside the same
brackets; blanks behind it may be left. A list or an object is complete behind its
closing bracket. -/
def Passed : Phrase → List UInt8 → Prop
  | .value _, s => ∀ (bs : List Bracket) (w rest : List UInt8), Blanks w → Stops rest →
      run ⟨bs, .value, w ++ (s ++ rest)⟩ = settle ⟨bs, .next, rest⟩
  | .padded _, s => ∀ (bs : List Bracket) (rest : List UInt8), Stops rest →
      ∃ w, Blanks w ∧ run ⟨bs, .value, s ++ rest⟩ = settle ⟨bs, .next, w ++ rest⟩
  | .items _, s => ∀ (outer : List Bracket) (rest : List UInt8),
      run ⟨.list :: outer, .value, s ++ Byte.closeList :: rest⟩ = settle ⟨outer, .next, rest⟩
  | .member _ _, s => ∀ (bs : List Bracket) (rest : List UInt8), Stops rest →
      ∃ w, Blanks w ∧ (name bs (s ++ rest)).bind settle = settle ⟨bs, .next, w ++ rest⟩
  | .members _, s => ∀ (outer : List Bracket) (rest : List UInt8),
      (name (.object :: outer) (s ++ Byte.closeObject :: rest)).bind settle =
        settle ⟨outer, .next, rest⟩

/-- A run that finds a value due goes on from where the value leads. -/
theorem run_value {q : Point} (hw : Blanks w) (h : value bs s = .ok q) :
    run ⟨bs, .value, w ++ s⟩ = settle q := by
  have hs : step ⟨bs, .value, w ++ s⟩ = value bs s := by
    show value bs (w ++ s) = value bs s
    rw [← value_dropBlank, dropBlank_blanks hw, value_dropBlank]
  rw [run_eq_bind, hs, h]
  rfl

theorem value_number {n : Numeral} (h : n.Written s) (ht : Stops rest) :
    value bs (s ++ rest) = .ok ⟨bs, .next, rest⟩ := by
  have hskip : Numeral.skip (s ++ rest) = .ok rest := by
    rw [Numeral.skip, Numeral.scan_written _ h ht]
  obtain ⟨b, more, rfl, hb⟩ := h.head
  have hne : ∀ c, Numeral.startsWith c = false → b ≠ c := fun c => Numeral.startsWith_ne hb
  rw [List.cons_append] at hskip ⊢
  simp only [value, dropBlank_cons (Numeral.startsWith_notBlank hb), hne 0x6E (by decide),
    hne 0x74 (by decide), hne 0x66 (by decide), hne Byte.quote (by decide),
    hne Byte.openList (by decide), hne Byte.openObject (by decide), hb, if_true, if_false, hskip]
  rfl

theorem value_openList (s : List UInt8) :
    value bs (Byte.openList :: (s ++ [Byte.closeList]) ++ rest) =
      .ok ⟨.list :: bs, .first, s ++ Byte.closeList :: rest⟩ := by
  rw [List.cons_append, List.append_assoc]
  rfl

theorem value_openObject (s : List UInt8) :
    value bs (Byte.openObject :: (s ++ [Byte.closeObject]) ++ rest) =
      .ok ⟨.object :: bs, .first, s ++ Byte.closeObject :: rest⟩ := by
  rw [List.cons_append, List.append_assoc]
  rfl

theorem value_text {cs : List Char} (h : Spelt cs s) :
    value bs (Byte.quote :: (s ++ [Byte.quote]) ++ rest) = .ok ⟨bs, .next, rest⟩ := by
  have hvalue : value bs (Byte.quote :: (s ++ Byte.quote :: rest)) =
      (StringLiteral.skip (s ++ Byte.quote :: rest)).map fun rest => ⟨bs, .next, rest⟩ := rfl
  rw [List.cons_append, List.append_assoc, List.singleton_append, hvalue,
    StringLiteral.skip_spelt rest h]
  rfl

/-- **A run gets past every phrase**, by induction on how it is written. -/
theorem passed {p : Phrase} (h : Written p s) : Passed p s := by
  induction h with
  | null =>
    intro bs w rest hw _
    exact run_value bs hw rfl
  | yes =>
    intro bs w rest hw _
    exact run_value bs hw rfl
  | no =>
    intro bs w rest hw _
    exact run_value bs hw rfl
  | number hn =>
    intro bs w rest hw ht
    exact run_value bs hw (value_number bs hn ht)
  | text hs =>
    intro bs w rest hw _
    exact run_value bs hw (value_text bs hs)
  | @emptyList v hv =>
    intro bs w rest hw _
    rw [run_value bs hw (value_openList bs v)]
    exact settle_closing bs .list .first (by simp) hv rest
  | @list _ s hs ih =>
    intro bs w rest hw _
    obtain ⟨b, more, hb, hne⟩ := hs.items_head (Byte.closeList :: rest)
    rw [run_value bs hw (value_openList bs s)]
    exact (settle_firstItem bs hb hne).trans (ih bs rest)
  | @emptyObject v hv =>
    intro bs w rest hw _
    rw [run_value bs hw (value_openObject bs v)]
    exact settle_closing bs .object .first (by simp) hv rest
  | @object _ s hs ih =>
    intro bs w rest hw _
    obtain ⟨more, hb⟩ := hs.members_head (Byte.closeObject :: rest)
    rw [run_value bs hw (value_openObject bs s)]
    exact (settle_firstName bs hb).trans (ih bs rest)
  | @padded d w s w' hw _ hw' ih =>
    intro bs rest ht
    refine ⟨w', hw', ?_⟩
    rw [List.append_assoc, List.append_assoc]
    exact ih bs w _ hw (ht.blanks hw')
  | oneItem _ ih =>
    intro outer rest
    obtain ⟨w, hw, hrun⟩ := ih (.list :: outer) (Byte.closeList :: rest) (stops_cons (by decide) _)
    rw [hrun]
    exact settle_closing outer .list .next (by simp) hw rest
  | @moreItems d ds s t _ _ ihd ih =>
    intro outer rest
    obtain ⟨w, hw, hrun⟩ := ihd (.list :: outer) (Byte.comma :: (t ++ Byte.closeList :: rest))
      (stops_cons (by decide) _)
    rw [List.append_assoc, List.cons_append, hrun, settle_nextItem outer hw]
    exact ih outer rest
  | @member n d w k w' s hw hk hw' _ ih =>
    intro bs rest ht
    obtain ⟨v, hv, hrun⟩ := ih bs rest ht
    refine ⟨v, hv, ?_⟩
    rw [← hrun]
    have hb : dropBlank (w ++ Byte.quote :: (k ++ Byte.quote :: (w' ++ Byte.colon :: s)) ++ rest) =
        Byte.quote :: (k ++ Byte.quote :: (w' ++ Byte.colon :: (s ++ rest))) := by
      rw [List.append_assoc, dropBlank_blanks hw]
      simp only [List.cons_append, List.append_assoc]
      rfl
    have hc := colon_blanks hw' (s ++ rest)
    have hn : name bs (w ++ Byte.quote :: (k ++ Byte.quote :: (w' ++ Byte.colon :: s)) ++ rest) =
        .ok ⟨bs, .value, s ++ rest⟩ := by
      simp only [name, hb, if_true, StringLiteral.skip_spelt _ hk]
      rw [Except.bind, hc]
      rfl
    rw [hn]
    rfl
  | oneMember _ ih =>
    intro outer rest
    obtain ⟨w, hw, hrun⟩ := ih (.object :: outer) (Byte.closeObject :: rest)
      (stops_cons (by decide) _)
    rw [hrun]
    exact settle_closing outer .object .next (by simp) hw rest
  | @moreMembers n d ms s t _ _ ihm ih =>
    intro outer rest
    obtain ⟨w, hw, hrun⟩ := ihm (.object :: outer) (Byte.comma :: (t ++ Byte.closeObject :: rest))
      (stops_cons (by decide) _)
    rw [List.append_assoc, List.cons_append, hrun, settle_nextName outer hw]
    exact ih outer rest

end Skip

/-- **`skip` returns the rest behind a value of any kind.** -/
theorem skip_written (h : Written (.value d) s) (hw : Blanks w) (ht : Stops rest) :
    skip (w ++ (s ++ rest)) = .ok rest := by
  have hpass : Skip.Passed (.value d) s := Skip.passed h
  exact hpass [] w rest hw ht

end SignOn.Json
