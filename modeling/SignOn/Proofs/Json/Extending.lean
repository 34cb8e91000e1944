import Mathlib.Data.List.TakeWhile
import SignOn.Json.Document
import SignOn.Proofs.Json.Records

/-!
What has been read off the front of a text is read off every longer text as well.

* `Numeral.scan_append`: a number is scanned alike, unless it reached the end of the
  text: there it might go on;
* `Skip.run_append`: so is a value that nobody asked for, at any depth;
* `Reader.Steady`, `Reader.Closed`: the law of readers, for those that may reach the end
  of the text as numbers do and for those that stop at a closing bracket;
* `Reader.Steady.list`, `Reader.record_closed`: lists and records are closed;
* `Reader.Closed.decode_append`: what may follow a whole document.
-/

namespace SignOn.Json

variable {s t rest : List UInt8} (x : List UInt8)

theorem dropBlank_append {b : UInt8} (h : dropBlank s = b :: t) :
    dropBlank (s ++ x) = b :: (t ++ x) := by
  rw [dropBlank] at h
  rw [dropBlank, List.dropWhile_append, h]
  rfl

/-! ## Strings -/

namespace StringLiteral

theorem contentFrom_append {spot : Spot} {held content : List UInt8}
    (h : contentFrom spot held s = .ok (content, rest)) :
    contentFrom spot held (s ++ x) = .ok (content, rest ++ x) := by
  induction s generalizing spot held with
  | nil => cases h
  | cons b s ih =>
    rw [contentFrom] at h
    rw [List.cons_append, contentFrom]
    cases hs : step spot held b with
    | error c =>
      rw [hs] at h
      cases h
    | ok next =>
      rw [hs] at h
      cases next with
      | none =>
        cases h
        rfl
      | some p => exact ih h

theorem read_append {text : String} (h : read s = .ok (text, rest)) :
    read (s ++ x) = .ok (text, rest ++ x) := by
  unfold read at h ⊢
  cases hc : contentFrom .plain [] s with
  | error e =>
    rw [hc] at h
    cases h
  | ok out =>
    obtain ⟨content, more⟩ := out
    rw [hc] at h
    rw [contentFrom_append x hc]
    cases hd : Utf8.decode? content with
    | none =>
      simp only [hd] at h
      cases h
    | some t =>
      simp only [hd] at h ⊢
      cases h
      rfl

theorem skipFrom_append {course : Course} (h : skipFrom course s = .ok rest) :
    skipFrom course (s ++ x) = .ok (rest ++ x) := by
  induction s generalizing course with
  | nil => cases course <;> cases h
  | cons b s ih =>
    rw [List.cons_append]
    cases course with
    | plain =>
      rw [skipFrom] at h ⊢
      split at h
      · next hq =>
        cases h
        rw [if_pos hq]
      · next hq =>
        rw [if_neg hq]
        split at h
        · next hb =>
          rw [if_pos hb]
          exact ih h
        · next hb =>
          rw [if_neg hb]
          split at h
          · cases h
          · next hc =>
            rw [if_neg hc]
            exact ih h
    | escape =>
      rw [skipFrom] at h ⊢
      split at h
      · next hl =>
        rw [if_pos hl]
        exact ih h
      · next hl =>
        rw [if_neg hl]
        split at h
        · next hu =>
          rw [if_pos hu]
          exact ih h
        · cases h
    | digits held =>
      rw [skipFrom] at h ⊢
      split at h
      · next hlen =>
        rw [if_pos hlen]
        exact ih h
      · next hlen =>
        rw [if_neg hlen]
        split at h
        · next hx =>
          rw [if_pos hx]
          exact ih h
        · cases h

end StringLiteral

/-! ## Names -/

theorem letters_append {word : List UInt8} (h : letters word s = .ok rest) :
    letters word (s ++ x) = .ok (rest ++ x) := by
  induction word generalizing s with
  | nil =>
    cases h
    rfl
  | cons w word ih =>
    cases s with
    | nil => cases h
    | cons b s =>
      rw [letters] at h
      rw [List.cons_append, letters]
      split at h
      · next hb =>
        rw [if_pos hb]
        exact ih h
      · cases h

/-! ## Numbers -/

namespace Numeral

/-- Digits that end before the end of the text end there in a longer text. -/
theorem digits_append (h : s.dropWhile isDigit ≠ []) :
    (s ++ x).takeWhile isDigit = s.takeWhile isDigit ∧
      (s ++ x).dropWhile isDigit = s.dropWhile isDigit ++ x := by
  induction s with
  | nil => exact absurd rfl h
  | cons b s ih =>
    by_cases hb : isDigit b
    · simp only [List.dropWhile_cons_of_pos hb] at h
      obtain ⟨htake, hdrop⟩ := ih h
      simp [hb, htake, hdrop]
    · simp [hb]

variable {cut : Cause} (hne : rest ≠ [])
include hne

theorem scanWhole_append {ds : List UInt8} (h : scanWhole cut s = .ok (ds, rest)) :
    scanWhole cut (s ++ x) = .ok (ds, rest ++ x) := by
  cases s with
  | nil => cases h
  | cons b s =>
    by_cases h0 : b = 0x30
    · cases s with
      | nil =>
        simp only [scanWhole, h0, if_true] at h
        cases h
        exact absurd rfl hne
      | cons d s =>
        simp only [List.cons_append, scanWhole, h0, if_true] at h ⊢
        split at h
        · cases h
        · next hd =>
          cases h
          rw [if_neg hd, List.cons_append]
    · simp only [List.cons_append, scanWhole, h0, if_false] at h ⊢
      split at h
      · next hb =>
        cases h
        obtain ⟨htake, hdrop⟩ := digits_append x hne
        rw [if_pos hb, htake, hdrop]
      · cases h

theorem scanFraction_append {f : Option (List UInt8)} (h : scanFraction cut s = .ok (f, rest)) :
    scanFraction cut (s ++ x) = .ok (f, rest ++ x) := by
  cases s with
  | nil =>
    cases h
    exact absurd rfl hne
  | cons b s =>
    by_cases hb : b = Byte.point
    · cases s with
      | nil =>
        simp only [scanFraction, hb, if_true] at h
        cases h
      | cons d s =>
        simp only [List.cons_append, scanFraction, hb, if_true] at h ⊢
        split at h
        · next hd =>
          cases h
          obtain ⟨htake, hdrop⟩ := digits_append x hne
          rw [if_pos hd, htake, hdrop]
        · cases h
    · simp only [List.cons_append, scanFraction, hb, if_false] at h ⊢
      cases h
      rfl

omit hne in
/-- A sign is found alike unless the text ends in front of it. -/
theorem scanSign_append {d : UInt8} {more : List UInt8} (h : (scanSign s).2 = d :: more) :
    scanSign (s ++ x) = ((scanSign s).1, d :: (more ++ x)) := by
  cases s with
  | nil => cases h
  | cons b s =>
    rw [scanSign] at h
    rw [List.cons_append, scanSign, scanSign]
    split at h
    · next hb =>
      obtain rfl : s = d :: more := h
      simp [hb]
    · split at h
      · next hm hp =>
        obtain rfl : s = d :: more := h
        rw [if_neg hm, if_neg hm, if_pos hp, if_pos hp]
        rfl
      · next hm hp =>
        obtain ⟨rfl, rfl⟩ := List.cons.inj h
        rw [if_neg hm, if_neg hm, if_neg hp, if_neg hp]

theorem scanExponent_append {e : Option (Bool × List UInt8)}
    (h : scanExponent cut s = .ok (e, rest)) :
    scanExponent cut (s ++ x) = .ok (e, rest ++ x) := by
  cases s with
  | nil =>
    cases h
    exact absurd rfl hne
  | cons b s =>
    rw [scanExponent] at h
    rw [List.cons_append, scanExponent]
    split at h
    · next hb =>
      rw [if_pos hb]
      cases hs : (scanSign s).2 with
      | nil =>
        rw [hs] at h
        cases h
      | cons d more =>
        simp only [hs] at h
        rw [scanSign_append x hs]
        split at h
        · next hd =>
          cases h
          obtain ⟨htake, hdrop⟩ := digits_append x hne
          simp [hd, htake, hdrop]
        · cases h
    · next hb =>
      rw [if_neg hb]
      cases h
      rfl

omit hne in
theorem scanMinus_append (hs : s ≠ []) :
    scanMinus (s ++ x) = ((scanMinus s).1, (scanMinus s).2 ++ x) := by
  cases s with
  | nil => exact absurd rfl hs
  | cons b s =>
    rw [List.cons_append, scanMinus, scanMinus]
    split
    · rfl
    · rfl

/-- **A number is scanned alike** if something stands behind it. -/
theorem scan_append {n : Numeral} (h : scan cut s = .ok (n, rest)) :
    scan cut (s ++ x) = .ok (n, rest ++ x) := by
  have hlong : ∀ {more : List UInt8}, rest.length ≤ more.length → more ≠ [] := by
    rintro more hle rfl
    exact hne (List.eq_nil_of_length_eq_zero (Nat.le_zero.mp hle))
  have hs : s ≠ [] := hlong (Nat.le_of_lt (scan_shrinks h))
  simp only [scan] at h ⊢
  rw [scanMinus_append x hs]
  cases hw : scanWhole cut (scanMinus s).2 with
  | error e =>
    rw [hw] at h
    cases h
  | ok out =>
    obtain ⟨whole, s₁⟩ := out
    simp only [hw] at h
    cases hf : scanFraction cut s₁ with
    | error e =>
      rw [hf] at h
      cases h
    | ok out =>
      obtain ⟨fraction, s₂⟩ := out
      simp only [hf] at h
      cases he : scanExponent cut s₂ with
      | error e =>
        rw [he] at h
        cases h
      | ok out =>
        obtain ⟨exponent, s₃⟩ := out
        simp only [he] at h
        cases h
        -- what is left only gets shorter, so nothing before was the end of the text
        have hle₂ := scanExponent_length he
        have hle₁ := Nat.le_trans hle₂ (scanFraction_length hf)
        simp only [scanWhole_append x (hlong hle₁) hw, scanFraction_append x (hlong hle₂) hf,
          scanExponent_append x hne he]

theorem skip_append (h : skip s = .ok rest) : skip (s ++ x) = .ok (rest ++ x) := by
  unfold skip at h ⊢
  cases hs : scan .badNumber s with
  | error e =>
    rw [hs] at h
    cases h
  | ok out =>
    simp only [hs] at h
    cases h
    rw [scan_append x hne hs]

end Numeral

theorem Number.read_append {n : Number} (hne : rest ≠ []) (h : Number.read s = .ok (n, rest)) :
    Number.read (s ++ x) = .ok (n, rest ++ x) := by
  unfold Number.read at h ⊢
  cases hs : Numeral.scan .endInValue s with
  | error e =>
    rw [hs] at h
    cases h
  | ok out =>
    obtain ⟨m, more⟩ := out
    simp only [hs] at h
    cases hv : m.value with
    | error u =>
      rw [hv] at h
      cases h
    | ok v =>
      simp only [hv] at h
      cases h
      simp only [Numeral.scan_append x hne hs, hv]

/-! ## Fronts -/

theorem Reading.of_append {α : Type} {a b : α} {r r' : Except Fault (List UInt8)}
    (hr : r = .ok rest → r' = .ok (rest ++ x)) (h : Reading.of a r = .ok (b, rest)) :
    Reading.of a r' = .ok (b, rest ++ x) := by
  have hrest := Reading.of_eq_ok h
  rw [hrest] at h
  rw [hr hrest]
  cases h
  rfl

theorem Reading.map_append {α β : Type} {f : α → β} {b : β} {r r' : Reading α}
    (hr : ∀ {a}, r = .ok (a, rest) → r' = .ok (a, rest ++ x))
    (h : Reading.map f r = .ok (b, rest)) : Reading.map f r' = .ok (b, rest ++ x) := by
  obtain ⟨a, ha, rfl⟩ := Reading.map_eq_ok h
  rw [hr ha]
  rfl

theorem bind_append {f : List UInt8 → Except Fault (List UInt8)} {r r' : Except Fault (List UInt8)}
    (hr : ∀ {t}, r = .ok t → r' = .ok (t ++ x))
    (hf : ∀ {t}, f t = .ok rest → f (t ++ x) = .ok (rest ++ x)) (h : r.bind f = .ok rest) :
    r'.bind f = .ok (rest ++ x) := by
  cases ht : r with
  | error e =>
    rw [ht] at h
    cases h
  | ok t =>
    rw [ht] at h
    rw [hr ht]
    exact hf h

theorem Lexeme.read_append {l : Lexeme} (hne : rest ≠ []) (h : Lexeme.read s = .ok (l, rest)) :
    Lexeme.read (s ++ x) = .ok (l, rest ++ x) := by
  unfold Lexeme.read at h
  split at h
  · cases h
  · next b t hs =>
    unfold Lexeme.read
    simp only [dropBlank_append x hs]
    split_ifs at h ⊢
    · exact Reading.of_append x (letters_append x) h
    · exact Reading.of_append x (letters_append x) h
    · exact Reading.of_append x (letters_append x) h
    · exact Reading.map_append x (StringLiteral.read_append x) h
    · cases h
      rfl
    · cases h
      rfl
    · exact Reading.map_append x (Number.read_append x hne) h

/-! ## Values that nobody asked for -/

namespace Skip

/-- The same point in a longer text. -/
def Point.extend (q : Point) : Point := { q with rest := q.rest ++ x }

variable {bs outer : List Bracket} {q : Point}

/-- What is reached behind a piece of text is reached behind it in a longer one. -/
theorem reach_append {due : Due} {r r' : Except Fault (List UInt8)}
    (hr : r = .ok q.rest → r' = .ok (q.rest ++ x))
    (h : (r.map fun rest => (⟨bs, due, rest⟩ : Point)) = .ok q) :
    (r'.map fun rest => (⟨bs, due, rest⟩ : Point)) = .ok (q.extend x) := by
  obtain ⟨t, ht, rfl⟩ := map_eq_ok h
  rw [hr ht]
  rfl

theorem colon_append (h : colon s = .ok rest) : colon (s ++ x) = .ok (rest ++ x) := by
  unfold colon at h
  split at h
  · cases h
  · next b t hs =>
    unfold colon
    simp only [dropBlank_append x hs]
    split_ifs at h ⊢
    cases h
    rfl

theorem name_append (h : name bs s = .ok q) : name bs (s ++ x) = .ok (q.extend x) := by
  unfold name at h
  split at h
  · cases h
  · next b t hs =>
    unfold name
    simp only [dropBlank_append x hs]
    split_ifs at h ⊢
    exact reach_append x (bind_append x (StringLiteral.skipFrom_append x) (colon_append x)) h

theorem value_append (h : value bs s = .ok q) (hne : q.rest ≠ []) :
    value bs (s ++ x) = .ok (q.extend x) := by
  simp only [value] at h
  split at h
  · cases h
  · next b t hs =>
    simp only [value, dropBlank_append x hs]
    split_ifs at h ⊢
    · exact reach_append x (letters_append x) h
    · exact reach_append x (letters_append x) h
    · exact reach_append x (letters_append x) h
    · exact reach_append x (StringLiteral.skipFrom_append x) h
    · cases h
      rfl
    · cases h
      rfl
    · exact reach_append x (Numeral.skip_append x hne) h

theorem inside_append {b : Bracket} {isFirst : Bool} (h : inside b outer isFirst s = .ok q)
    (hne : q.rest ≠ []) : inside b outer isFirst (s ++ x) = .ok (q.extend x) := by
  unfold inside at h
  split at h
  · cases h
  · cases h
  · next c t hs =>
    simp only [inside, dropBlank_append x hs]
    split_ifs at h ⊢
    · cases h
      rfl
    · exact value_append x h hne
    · cases h
      rfl
  · next c t hs =>
    simp only [inside, dropBlank_append x hs]
    split_ifs at h ⊢
    · cases h
      rfl
    · exact name_append x h
    · exact name_append x h

theorem step_append {p : Point} (h : step p = .ok q) (hne : q.rest ≠ []) :
    step (p.extend x) = .ok (q.extend x) := by
  obtain ⟨bs, due, s⟩ := p
  cases due with
  | value => exact value_append x h hne
  | first =>
    cases bs with
    | nil => exact value_append x h hne
    | cons b outer => exact inside_append x h hne
  | next =>
    cases bs with
    | nil => exact value_append x h hne
    | cons b outer => exact inside_append x h hne

/-- **A run ends alike in a longer text**, step by step. -/
theorem run_append {p : Point} (hne : rest ≠ []) (h : run p = .ok rest) :
    run (p.extend x) = .ok (rest ++ x) := by
  fun_induction run p with
  | case1 p e hs => cases h
  | case2 p q hs hd hb =>
    cases h
    rw [run_eq_bind, step_append x hs hne]
    show settle (q.extend x) = _
    unfold settle
    simp only [Point.extend, hd, hb]
  | case3 p q hs _ hd ih =>
    have hq : q.rest ≠ [] := List.length_pos_iff.mp (Nat.zero_lt_of_lt (run_shrinks h))
    rw [run_eq_bind, step_append x hs hq]
    show settle (q.extend x) = _
    unfold settle
    split
    · next hd' hb' => exact absurd hb' (hd hd')
    · exact ih h

end Skip

theorem skip_append (hne : rest ≠ []) (h : skip s = .ok rest) : skip (s ++ x) = .ok (rest ++ x) :=
  Skip.run_append x hne h

/-! ## Readers -/

theorem Items.nextItem_append {isFirst : Bool} {item : Option (List UInt8)}
    (h : Items.nextItem isFirst s = .ok item) :
    Items.nextItem isFirst (s ++ x) = .ok (item.map (· ++ x)) := by
  unfold Items.nextItem at h
  split at h
  · cases h
  · next b t hs =>
    unfold Items.nextItem
    simp only [dropBlank_append x hs]
    split_ifs at h ⊢
    · cases h
      rfl
    · cases h
      rfl
    · split at h
      · cases h
      · next c more hm =>
        simp only [dropBlank_append x hm]
        split_ifs at h ⊢
        cases h
        rfl

theorem Items.close_append (h : Items.close s = .ok rest) :
    Items.close (s ++ x) = .ok (rest ++ x) := by
  unfold Items.close at h
  split at h
  · cases h
  · next b t hs =>
    unfold Items.close
    simp only [dropBlank_append x hs]
    split_ifs at h ⊢
    cases h
    rfl

theorem Record.nextName_append {isFirst : Bool} {name : Option String}
    (h : Record.nextName isFirst s = .ok (name, rest)) :
    Record.nextName isFirst (s ++ x) = .ok (name, rest ++ x) := by
  unfold Record.nextName at h
  split at h
  · cases h
  · next b t hs =>
    unfold Record.nextName
    simp only [dropBlank_append x hs]
    split_ifs at h ⊢
    · cases h
      rfl
    · exact Reading.map_append x (StringLiteral.read_append x) h
    · split at h
      · cases h
      · next c more hm =>
        simp only [dropBlank_append x hm]
        split_ifs at h ⊢
        exact Reading.map_append x (StringLiteral.read_append x) h

/-- What the reader takes off the front of a text with more behind it, it takes off
the front of every longer text. Behind a number it needs to see that more. -/
def Reader.Steady {α : Type} (r : Reader α) : Prop :=
  ∀ ⦃s : List UInt8⦄ ⦃a : α⦄ ⦃rest : List UInt8⦄, r.run s = .ok (a, rest) → rest ≠ [] →
    ∀ x, r.run (s ++ x) = .ok (a, rest ++ x)

/-- The same at the end of a text as well: the reader knows where to stop. -/
def Reader.Closed {α : Type} (r : Reader α) : Prop :=
  ∀ ⦃s : List UInt8⦄ ⦃a : α⦄ ⦃rest : List UInt8⦄, r.run s = .ok (a, rest) →
    ∀ x, r.run (s ++ x) = .ok (a, rest ++ x)

namespace Reader

section

variable {α β : Type} {r : Reader α}

theorem Closed.steady (h : r.Closed) : r.Steady := by
  intro s a rest hr _ x
  exact h hr x

theorem scalar_steady (wanted : Wanted) (pick : Lexeme → Option (Except Cause α)) :
    (scalar wanted pick).Steady := by
  intro s a rest h hne x
  simp only [scalar] at h ⊢
  cases hl : Lexeme.read s with
  | error e =>
    rw [hl] at h
    cases h
  | ok out =>
    obtain ⟨l, more⟩ := out
    simp only [hl] at h
    cases hp : pick l with
    | none =>
      simp only [hp] at h
      cases h
    | some picked =>
      cases picked with
      | error c =>
        simp only [hp] at h
        cases h
      | ok b =>
        simp only [hp] at h
        cases h
        simp only [Lexeme.read_append x hne hl, hp]

theorem text_steady : text.Steady := scalar_steady _ _

theorem flag_steady : flag.Steady := scalar_steady _ _

theorem natural_steady : natural.Steady := scalar_steady _ _

theorem integer_steady : integer.Steady := scalar_steady _ _

theorem Steady.optional (h : r.Steady) : r.optional.Steady := by
  intro s a rest hr hne x
  simp only [Reader.optional] at hr ⊢
  split at hr
  · cases hr
  · next b t hs =>
    simp only [dropBlank_append x hs]
    split_ifs at hr ⊢
    · exact Reading.of_append x (letters_append x) hr
    · exact Reading.map_append x (fun ha => h ha hne x) hr

theorem Closed.map (f : α → β) (h : r.Closed) : (r.map f).Closed := by
  intro s b rest hr x
  exact Reading.map_append x (fun ha => h ha x) hr

/-- The items of a list are read alike, one by one, up to its closing bracket. -/
theorem listFrom_append (hr : r.Steady) {isFirst : Bool} {held as : List α}
    (h : listFrom r isFirst held s = .ok (as, rest)) :
    listFrom r isFirst held (s ++ x) = .ok (as, rest ++ x) := by
  fun_induction listFrom r isFirst held s with
  | case1 => cases h
  | case2 isFirst held s hi =>
    rw [listFrom_none r held (Items.nextItem_append x hi)]
    exact Reading.of_append x (Items.close_append x) h
  | case3 => cases h
  | case4 isFirst held s item hi a mid hrun _ ih =>
    have hmid : mid ≠ [] := List.length_pos_iff.mp (Nat.zero_lt_of_lt (listFrom_shrinks h))
    rw [listFrom_some r held (Items.nextItem_append x hi), hr hrun hmid x]
    exact ih h

theorem Steady.list (h : r.Steady) : r.list.Closed := by
  intro s as rest hr x
  simp only [Reader.list] at hr ⊢
  split at hr
  · cases hr
  · next more hl =>
    have hmore : more ≠ [] := List.length_pos_iff.mp (Nat.zero_lt_of_lt (listFrom_shrinks hr))
    rw [Lexeme.read_append x hmore hl]
    exact listFrom_append x h hr
  · cases hr

end

end Reader

/-! ## Records -/

namespace Record

variable {fs : List Field}

theorem ofObject_ne_nil {vs : Values fs} (h : ofObject fs s = .ok (vs, rest)) : s ≠ [] := by
  unfold ofObject at h
  split at h
  · cases h
  · next hm => exact List.length_pos_iff.mp (Nat.zero_lt_of_lt (members_shrinks hm))

theorem ofList_ne_nil {name : String} {vs : Values fs} (h : ofList name fs s = .ok (vs, rest)) :
    s ≠ [] := by
  unfold ofList at h
  split at h
  · cases h
  · next hi =>
    have hlt := Nat.lt_of_lt_of_le (Items.close_shrinks (Reading.of_eq_ok h)) (items_length hi)
    exact List.length_pos_iff.mp (Nat.zero_lt_of_lt hlt)

variable (hfs : ∀ f ∈ fs, f.reader.Steady)
include hfs

theorem fill_append {name : String} {slots filled : Slots fs} (hne : rest ≠ [])
    (h : fill fs name slots s = .ok (filled, rest)) :
    fill fs name slots (s ++ x) = .ok (filled, rest ++ x) := by
  induction fs with
  | nil =>
    exact Reading.of_append x (bind_append x (Skip.colon_append x) (skip_append x hne)) h
  | cons f fs ih =>
    obtain ⟨slot, slots⟩ := slots
    simp only [fill] at h ⊢
    split_ifs at h ⊢
    · cases slot with
      | some a => cases h
      | none =>
        simp only at h ⊢
        cases hc : Skip.colon s with
        | error e =>
          rw [hc] at h
          cases h
        | ok mid =>
          simp only [hc] at h
          simp only [Skip.colon_append x hc]
          exact Reading.map_append x (fun hr => hfs f List.mem_cons_self hr hne x) h
    · exact Reading.map_append x (ih fun f' hf' => hfs f' (List.mem_cons_of_mem _ hf')) h

theorem members_append {isFirst : Bool} {slots filled : Slots fs}
    (h : members fs isFirst slots s = .ok (filled, rest)) :
    members fs isFirst slots (s ++ x) = .ok (filled, rest ++ x) := by
  fun_induction members fs isFirst slots s with
  | case1 => cases h
  | case2 isFirst slots s mid hn =>
    cases h
    exact members_none (nextName_append x hn)
  | case3 => cases h
  | case4 isFirst slots s name value hn filled mid hv _ ih =>
    have hmid : mid ≠ [] := List.length_pos_iff.mp (Nat.zero_lt_of_lt (members_shrinks h))
    rw [members_some (nextName_append x hn), fill_append x hfs hmid hv]
    exact ih h

theorem items_append {name : String} {total index : Nat} {vs : Values fs} (hne : rest ≠ [])
    (h : items name total fs index s = .ok (vs, rest)) :
    items name total fs index (s ++ x) = .ok (vs, rest ++ x) := by
  induction fs generalizing index s with
  | nil =>
    cases h
    rfl
  | cons f fs ih =>
    have htail : ∀ f' ∈ fs, f'.reader.Steady := fun f' hf' => hfs f' (List.mem_cons_of_mem _ hf')
    rw [items] at h ⊢
    cases hi : Items.nextItem (index == 0) s with
    | error e =>
      rw [hi] at h
      cases h
    | ok item =>
      simp only [hi] at h
      simp only [Items.nextItem_append x hi]
      cases item with
      | none =>
        simp only [Option.map_none] at h ⊢
        cases ha : f.absent with
        | none =>
          simp only [ha] at h
          cases h
        | some a =>
          simp only [ha] at h ⊢
          exact Reading.map_append x (ih htail) h
      | some item =>
        simp only [Option.map_some] at h ⊢
        cases hr : f.reader.run item with
        | error e =>
          simp only [hr] at h
          cases h
        | ok out =>
          obtain ⟨a, mid⟩ := out
          simp only [hr] at h
          obtain ⟨as, hitems, _⟩ := Reading.map_eq_ok h
          have hmid : mid ≠ [] := by
            have hpos := List.length_pos_iff.mpr hne
            exact List.length_pos_iff.mp (Nat.lt_of_lt_of_le hpos (items_length hitems))
          simp only [hfs f List.mem_cons_self hr hmid x]
          exact Reading.map_append x (ih htail) h

theorem ofObject_append {vs : Values fs} (h : ofObject fs s = .ok (vs, rest)) :
    ofObject fs (s ++ x) = .ok (vs, rest ++ x) := by
  unfold ofObject at h ⊢
  cases hm : members fs true (Slots.empty fs) s with
  | error e =>
    rw [hm] at h
    cases h
  | ok out =>
    obtain ⟨slots, more⟩ := out
    simp only [hm] at h
    simp only [members_append x hfs hm]
    cases hc : slots.complete with
    | error c =>
      simp only [hc] at h
      cases h
    | ok vs' =>
      simp only [hc] at h ⊢
      cases h
      rfl

theorem ofList_append {name : String} {vs : Values fs} (h : ofList name fs s = .ok (vs, rest)) :
    ofList name fs (s ++ x) = .ok (vs, rest ++ x) := by
  unfold ofList at h ⊢
  cases hi : items name fs.length fs 0 s with
  | error e =>
    rw [hi] at h
    cases h
  | ok out =>
    obtain ⟨vs', more⟩ := out
    simp only [hi] at h
    have hmore : more ≠ [] :=
      List.length_pos_iff.mp (Nat.zero_lt_of_lt (Items.close_shrinks (Reading.of_eq_ok h)))
    simp only [items_append x hfs hmore hi]
    exact Reading.of_append x (Items.close_append x) h

end Record

namespace Reader

/-- **A record is closed** whatever its fields are: both its forms end with a bracket. -/
theorem record_closed (name : String) {fs : List Field} (hfs : ∀ f ∈ fs, f.reader.Steady) :
    (record name fs).Closed := by
  intro s vs rest h x
  simp only [record] at h ⊢
  split at h
  · cases h
  · next hl =>
    simp only [Lexeme.read_append x (Record.ofObject_ne_nil h) hl]
    exact Record.ofObject_append x hfs h
  · next hl =>
    simp only [Lexeme.read_append x (Record.ofList_ne_nil h) hl]
    exact Record.ofList_append x hfs h
  · cases h

/-- **Behind a whole document only blanks may follow**: with anything else behind it,
it is refused. -/
theorem Closed.decode_append {α : Type} {r : Reader α} (hr : r.Closed) {d : List UInt8} {v : α}
    (h : decode r d = .ok v) (x : List UInt8) (w : α) :
    decode r (d ++ x) = .ok w ↔ Blanks x ∧ w = v := by
  unfold decode at h
  split at h
  · cases h
  · next a rest hrun =>
    split at h
    · next hrest =>
      cases h
      have hblanks : Blanks rest := List.dropWhile_eq_nil_iff.mp hrest
      have hx : Blanks x ↔ dropBlank x = [] := List.dropWhile_eq_nil_iff.symm
      unfold decode
      simp only [hr hrun x, dropBlank_blanks hblanks, hx]
      split
      · next hnil => simp [hnil, eq_comm]
      · next hmore =>
        refine iff_of_false (by simp) ?_
        rintro ⟨hnil, _⟩
        exact hmore hnil
    · cases h

end Reader

end SignOn.Json
