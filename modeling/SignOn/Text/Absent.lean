/-!
Texts of which the empty one counts as absent.
-/

namespace SignOn

/-- A text, unless it is empty. -/
def nonEmpty? (s : String) : Option String := if s.isEmpty then none else some s

theorem nonEmpty_of_ne {t : String} (h : t ≠ "") : nonEmpty? t = some t := by
  simp [nonEmpty?, h]

theorem nonEmpty?_isSome (t : String) : (nonEmpty? t).isSome ↔ t ≠ "" := by
  by_cases h : t = ""
  · simp [nonEmpty?, h]
  · simp [nonEmpty_of_ne h, h]

theorem nonEmpty?_ne_empty (t : String) : nonEmpty? t ≠ some "" := by
  by_cases h : t = ""
  · simp [nonEmpty?, h]
  · simp [nonEmpty_of_ne h, h]

theorem nonEmpty?_eq_some {t u : String} : nonEmpty? t = some u ↔ t = u ∧ u ≠ "" := by
  by_cases h : t = ""
  · refine iff_of_false (by simp [nonEmpty?, h]) ?_
    rintro ⟨rfl, hne⟩
    exact hne h
  · rw [nonEmpty_of_ne h, Option.some.injEq]
    refine ⟨?_, And.left⟩
    rintro rfl
    exact ⟨rfl, h⟩

end SignOn
