import SignOn.Json.Lexeme
import SignOn.Proofs.Json.Grammar

/-!
Numbers as they are written.

* `Numeral.scan_written`: a number in any spelling is scanned to its end;
* `Numeral.value_integer_iff`: the numerals whose value is an integer.
-/

namespace SignOn.Json

/-- No digit comes next. -/
def NoDigit (t : List UInt8) : Prop := ∀ b, t.head? = some b → ¬ isDigit b

/-- Nothing comes next with which a number could go on. -/
def Stops (t : List UInt8) : Prop :=
  ∀ b, t.head? = some b → ¬ isDigit b ∧ b ≠ Byte.point ∧ b ≠ 0x65 ∧ b ≠ 0x45

theorem Stops.noDigit {t : List UInt8} (h : Stops t) : NoDigit t := fun b hb => (h b hb).1

theorem stops_nil : Stops [] := by
  intro b hb
  cases hb

theorem stops_cons {b : UInt8} (h : ¬ isDigit b ∧ b ≠ Byte.point ∧ b ≠ 0x65 ∧ b ≠ 0x45)
    (t : List UInt8) : Stops (b :: t) := by
  intro b' hb
  cases hb
  exact h

theorem noDigit_cons {b : UInt8} (h : ¬ isDigit b) (t : List UInt8) : NoDigit (b :: t) := by
  intro b' hb
  cases hb
  exact h

/-! ## Digits -/

theorem takeWhile_digits {ds t : List UInt8} (h : ∀ d ∈ ds, isDigit d) (ht : NoDigit t) :
    (ds ++ t).takeWhile isDigit = ds ∧ (ds ++ t).dropWhile isDigit = t := by
  rw [List.takeWhile_append_of_pos h, List.dropWhile_append_of_pos h]
  cases t with
  | nil => simp
  | cons b t =>
    have hb : isDigit b = false := by simpa using ht b rfl
    simp [hb]

theorem Digits.cons {ds : List UInt8} (h : Digits ds) :
    ∃ d more, ds = d :: more ∧ isDigit d ∧ ∀ d' ∈ more, isDigit d' := by
  obtain ⟨hne, hall⟩ := h
  obtain ⟨d, more, rfl⟩ := List.exists_cons_of_ne_nil hne
  exact ⟨d, more, rfl, hall d List.mem_cons_self, fun d' hd => hall d' (List.mem_cons_of_mem _ hd)⟩

theorem isDigit_ne {d b : UInt8} (hd : isDigit d) (hb : ¬ isDigit b) : d ≠ b := by
  rintro rfl
  exact hb hd

namespace Numeral

/-! ## Scanning -/

variable (cut : Cause) {n : Numeral} {t : List UInt8}

theorem scanWhole_digits {ds : List UInt8} (h : Digits ds)
    (hz : ds.head? = some 0x30 → ds = [0x30]) (ht : NoDigit t) :
    scanWhole cut (ds ++ t) = .ok (ds, t) := by
  obtain ⟨d, more, rfl, hd, hmore⟩ := h.cons
  by_cases h0 : d = 0x30
  · subst h0
    obtain rfl : more = [] := by simpa using hz rfl
    cases t with
    | nil => rfl
    | cons b t =>
      have hb : ¬ isDigit b := ht b rfl
      simp [scanWhole, hb]
  · obtain ⟨htake, hdrop⟩ := takeWhile_digits hmore ht
    simp only [List.cons_append, scanWhole, h0, if_false, hd, if_true, htake, hdrop]

theorem scanFraction_written {f : Option (List UInt8)} {s : List UInt8} (h : FractionWritten f s)
    (ht : NoDigit t) (hp : t.head? ≠ some Byte.point) :
    scanFraction cut (s ++ t) = .ok (f, t) := by
  cases h with
  | absent =>
    cases t with
    | nil => rfl
    | cons b t =>
      have hb : b ≠ Byte.point := fun hb => hp (by rw [hb]; rfl)
      simp only [List.nil_append, scanFraction, hb, if_false]
  | present hds =>
    obtain ⟨d, more, rfl, hd, hmore⟩ := hds.cons
    obtain ⟨htake, hdrop⟩ := takeWhile_digits hmore ht
    simp only [List.cons_append, scanFraction, if_true, hd, htake, hdrop]

theorem scanExponent_written {e : Option (Bool × List UInt8)} {s : List UInt8}
    (h : ExponentWritten e s) (ht : Stops t) : scanExponent cut (s ++ t) = .ok (e, t) := by
  have hsign : ∀ {d : UInt8} {more : List UInt8}, isDigit d →
      scanSign (d :: more) = (false, d :: more) := by
    intro d more hd
    have hm : d ≠ Byte.minus := isDigit_ne hd (by decide)
    have hp : d ≠ Byte.plus := isDigit_ne hd (by decide)
    rw [scanSign, if_neg hm, if_neg hp]
  cases h with
  | absent =>
    cases t with
    | nil => rfl
    | cons b t =>
      obtain ⟨_, _, he, he'⟩ := ht b rfl
      simp [scanExponent, he, he']
  | @unsigned l ds hl hds =>
    obtain ⟨d, more, rfl, hd, hmore⟩ := hds.cons
    obtain ⟨htake, hdrop⟩ := takeWhile_digits hmore ht.noDigit
    have hl' : (l = 0x65 || l = 0x45) = true := by simpa using hl
    simp only [List.cons_append, scanExponent, hl', if_true, hsign hd, hd, htake, hdrop]
  | @plus l ds hl hds =>
    obtain ⟨d, more, rfl, hd, hmore⟩ := hds.cons
    obtain ⟨htake, hdrop⟩ := takeWhile_digits hmore ht.noDigit
    have hl' : (l = 0x65 || l = 0x45) = true := by simpa using hl
    have hplus : scanSign (Byte.plus :: d :: (more ++ t)) = (false, d :: (more ++ t)) := rfl
    simp only [List.cons_append, scanExponent, hl', if_true, hplus, hd, htake, hdrop]
  | @minus l ds hl hds =>
    obtain ⟨d, more, rfl, hd, hmore⟩ := hds.cons
    obtain ⟨htake, hdrop⟩ := takeWhile_digits hmore ht.noDigit
    have hl' : (l = 0x65 || l = 0x45) = true := by simpa using hl
    have hminus : scanSign (Byte.minus :: d :: (more ++ t)) = (true, d :: (more ++ t)) := rfl
    simp only [List.cons_append, scanExponent, hl', if_true, hminus, hd, htake, hdrop]

/-- Behind the digits of a fraction there is no digit, and no second point. -/
theorem ExponentWritten.follows {e : Option (Bool × List UInt8)} {s : List UInt8}
    (h : ExponentWritten e s) (ht : Stops t) :
    NoDigit (s ++ t) ∧ (s ++ t).head? ≠ some Byte.point := by
  have hletter : ∀ {l : UInt8} {more : List UInt8}, l = 0x65 ∨ l = 0x45 →
      NoDigit (l :: more) ∧ (l :: more).head? ≠ some Byte.point := by
    rintro l more (rfl | rfl)
    · exact ⟨noDigit_cons (by decide) _, fun h => absurd (Option.some.inj h) (by decide)⟩
    · exact ⟨noDigit_cons (by decide) _, fun h => absurd (Option.some.inj h) (by decide)⟩
  cases h with
  | absent => exact ⟨ht.noDigit, fun hp => (ht _ hp).2.1 rfl⟩
  | unsigned hl _ | plus hl _ | minus hl _ => exact hletter hl

theorem FractionWritten.follows {f : Option (List UInt8)} {s : List UInt8}
    (h : FractionWritten f s) (ht : NoDigit t) : NoDigit (s ++ t) := by
  cases h with
  | absent => exact ht
  | present _ => exact noDigit_cons (by decide) _

/-- **A number in any spelling is scanned to its end.** -/
theorem scan_written {s : List UInt8} (h : n.Written s) (ht : Stops t) :
    scan cut (s ++ t) = .ok (n, t) := by
  obtain ⟨hw, hz, hf, he⟩ := h
  obtain ⟨hnd, hnp⟩ := he.follows ht
  have hminus : ∀ more, scanMinus ((if n.negative then [Byte.minus] else []) ++ (n.whole ++ more)) =
      (n.negative, n.whole ++ more) := by
    intro more
    cases hn : n.negative with
    | true => rfl
    | false =>
      obtain ⟨d, ds, hd, hdigit, _⟩ := hw.cons
      have hne : d ≠ Byte.minus := isDigit_ne hdigit (by decide)
      rw [hd]
      exact if_neg hne
  simp only [List.append_assoc, scan, hminus]
  rw [scanWhole_digits cut hw hz (hf.follows hnd)]
  simp only
  rw [scanFraction_written cut hf hnd hnp]
  simp only
  rw [scanExponent_written cut he ht]

/-- The first byte of a number. -/
theorem Written.head {s : List UInt8} (h : n.Written s) :
    ∃ b more, s = b :: more ∧ startsWith b := by
  obtain ⟨hw, _, _, _⟩ := h
  cases n.negative with
  | true => exact ⟨_, _, rfl, rfl⟩
  | false =>
    obtain ⟨d, ds, hd, hdigit, _⟩ := hw.cons
    rw [hd]
    exact ⟨d, _, rfl, by simp [startsWith, hdigit]⟩

/-! ## Values -/

theorem le_foldl_digits (m : Nat) (ds : List UInt8) :
    m ≤ ds.foldl (fun n d => n * 10 + digitValue d) m := by
  induction ds generalizing m with
  | nil => exact Nat.le_refl m
  | cons d ds ih =>
    have hle : m ≤ m * 10 + digitValue d := by omega
    exact Nat.le_trans hle (ih _)

/-- Digits are all taken if the number that they make stays below the limit. -/
theorem gather_of_lt {limit m : Nat} {ds : List UInt8}
    (h : ds.foldl (fun n d => n * 10 + digitValue d) m < limit) :
    gather limit m ds = (ds.foldl (fun n d => n * 10 + digitValue d) m, []) := by
  induction ds generalizing m with
  | nil => rfl
  | cons d ds ih =>
    have hlt : m * 10 + digitValue d < limit := Nat.lt_of_le_of_lt (le_foldl_digits _ ds) h
    simp only [gather, hlt, if_true]
    exact ih h

/-- Otherwise some are left. -/
theorem gather_of_le {limit m : Nat} {ds : List UInt8} (hm : m < limit)
    (h : limit ≤ ds.foldl (fun n d => n * 10 + digitValue d) m) : (gather limit m ds).2 ≠ [] := by
  induction ds generalizing m with
  | nil => exact absurd h (Nat.not_le_of_lt hm)
  | cons d ds ih =>
    by_cases hlt : m * 10 + digitValue d < limit
    · simp only [gather, hlt, if_true]
      exact ih hlt h
    · simp only [gather, hlt, if_false]
      exact List.cons_ne_nil _ _

/-- What is not a whole number that 64 bits hold is no integer. -/
theorem value_of_not_whole (h : n.parts.isWhole = false) (i : Int) :
    n.value ≠ .ok (.integer i) := by
  simp only [value, h, Bool.false_eq_true, if_false]
  -- all that is left are doubles and numbers too great
  repeat' split
  all_goals simp

/-- **Integers** are the numerals without point and exponent, other than minus
zero, that fit into 64 bits with or without a sign. -/
theorem value_integer_iff (n : Numeral) (i : Int) :
    n.value = .ok (.integer i) ↔
      n.integer? = some i ∧ -((UInt64.size / 2 : Nat) : Int) ≤ i ∧ i < (UInt64.size : Int) := by
  by_cases hp : n.fraction = none ∧ n.exponent = none
  · obtain ⟨hf, he⟩ := hp
    by_cases hlt : decimal n.whole < UInt64.size
    · have hg : gather UInt64.size 0 n.whole = (decimal n.whole, []) := gather_of_lt hlt
      have hparts : n.parts = ⟨decimal n.whole, 0, true⟩ := by
        simp [parts, hg, hf, he, gather]
      simp only [value, hparts, if_true, integer?, hf, he, true_and]
      cases hn : n.negative with
      | false =>
        simp only [Bool.not_false, if_true, Bool.false_eq_true, false_and, not_false_eq_true,
          if_false, Except.ok.injEq, Number.integer.injEq, Option.some.injEq]
        omega
      | true =>
        simp only [Bool.not_true, Bool.false_eq_true, if_false, Bool.and_eq_true,
          decide_eq_true_eq, if_true, true_and]
        by_cases h0 : decimal n.whole = 0
        · simp [h0]
        · by_cases hle : decimal n.whole ≤ UInt64.size / 2
          · have hpos : 0 < decimal n.whole := by omega
            simp only [hpos, hle, and_self, if_true, h0, not_false_eq_true, Except.ok.injEq,
              Number.integer.injEq, Option.some.injEq]
            omega
          · simp only [hle, and_false, if_false, h0, not_false_eq_true, if_true,
              Option.some.injEq]
            constructor
            · simp
            · omega
    · have hg : (gather UInt64.size 0 n.whole).2 ≠ [] :=
        gather_of_le (by decide) (Nat.le_of_not_lt hlt)
      have hwhole : n.parts.isWhole = false := by
        simp [parts, hg, hf, he]
      constructor
      · exact fun hv => absurd hv (value_of_not_whole hwhole i)
      · rintro ⟨hi, hl, hh⟩
        have hs : (UInt64.size / 2 : Nat) < UInt64.size := by decide
        simp only [integer?, hf, he, true_and] at hi
        split at hi
        · split at hi
          · cases hi
            omega
          · cases hi
            omega
        · cases hi
  · have hwhole : n.parts.isWhole = false := by
      simp only [parts, Bool.and_eq_false_iff, Option.isNone_eq_false_iff]
      by_cases hf : n.fraction = none
      · have he : n.exponent ≠ none := fun he => hp ⟨hf, he⟩
        exact Or.inr (Option.isSome_iff_ne_none.mpr he)
      · exact Or.inl (Or.inr (Option.isSome_iff_ne_none.mpr hf))
    constructor
    · exact fun hv => absurd hv (value_of_not_whole hwhole i)
    · rintro ⟨hi, _⟩
      rw [integer?, if_neg (fun h => hp ⟨h.1, h.2.1⟩)] at hi
      cases hi

end Numeral

end SignOn.Json
