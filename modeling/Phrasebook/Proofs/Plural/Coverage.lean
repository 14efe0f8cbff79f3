import Phrasebook.Plural.Rule

/-! # Plural forms are covered

Every count selects one of its rule's forms, negative counts included, and every form of a rule
is selected by some count that is not negative: a list of forms of the rule's size is never
read past its end, and none of its forms is dead.

The first fact is arithmetic on the count's absolute value, rule by rule. The second is settled
by the counts below 112, which already reach every form of every rule.
-/

namespace Phrasebook.PluralRule

/-- A count selects one of the rule's forms. -/
theorem formIndex_lt (r : PluralRule) (count : Int) : r.formIndex count < r.formCount := by
  cases r <;> simp only [formIndex, formCount] <;> repeat' split
  all_goals omega

/-- Each form of a rule is selected by a count below 112. -/
theorem small_count_selects (r : PluralRule) :
    ∀ k < r.formCount, ((List.range 112).any fun n => r.formIndex (n : Int) == k) = true := by
  cases r <;> decide

/-- Plural forms are selected within range, and each form by a count that is not negative. -/
theorem formIndex_lt_and_onto (r : PluralRule) :
    (∀ count : Int, r.formIndex count < r.formCount) ∧
      ∀ k < r.formCount, ∃ count : Int, 0 ≤ count ∧ r.formIndex count = k := by
  refine ⟨formIndex_lt r, fun k hk => ?_⟩
  obtain ⟨n, -, h⟩ := List.any_eq_true.1 (small_count_selects r k hk)
  exact ⟨n, Int.natCast_nonneg n, beq_iff_eq.1 h⟩

end Phrasebook.PluralRule
