import StoreMigration.Version.Basic

/-! Versions that compare equal are equal: what their order compares leaves nothing out. -/

namespace StoreMigration

open Std (LawfulEqOrd)

theorem compareLex_eq_eq {first second : α → α → Ordering} {left right : α} :
    compareLex first second left right = .eq ↔
      first left right = .eq ∧ second left right = .eq :=
  Ordering.then_eq_eq

theorem compareOn_eq_eq [Ord β] [LawfulEqOrd β] {key : α → β} {left right : α} :
    compareOn key left right = .eq ↔ key left = key right :=
  Std.LawfulEqCmp.compare_eq_iff_eq

instance : LawfulEqOrd Label where
  eq_of_compare {left right} same := by
    have parts : compareLex _ (compareLex _ (compareLex _ _)) left right = .eq := same
    simp only [compareLex_eq_eq, compareOn_eq_eq] at parts
    rcases left with ⟨leftCharacters, _⟩
    rcases right with ⟨rightCharacters, _⟩
    cases parts.2.2.2
    rfl

instance : LawfulEqOrd Identifier where
  eq_of_compare {left right} same := by
    have parts : compareLex _ (compareLex _ _) left right = .eq := same
    simp only [compareLex_eq_eq, compareOn_eq_eq] at parts
    rcases parts with ⟨rank, value, letters⟩
    cases left with
    | number leftValue =>
        cases right with
        | number rightValue => exact congrArg Identifier.number value
        | word label named => cases rank
    | word leftLabel leftNamed =>
        cases right with
        | number rightValue => cases rank
        | word rightLabel rightNamed =>
            rcases leftLabel with ⟨leftCharacters, _⟩
            rcases rightLabel with ⟨rightCharacters, _⟩
            cases letters
            rfl

instance : LawfulEqOrd Version where
  eq_of_compare {left right} same := by
    have parts : compareLex _ (compareLex _ (compareLex _ (compareLex _ (compareLex _ _)))) left
      right = .eq := same
    simp only [compareLex_eq_eq, compareOn_eq_eq] at parts
    rcases parts with ⟨major, minor, patch, _, preRelease, build⟩
    rcases left with ⟨_, _, _, _, _⟩
    rcases right with ⟨_, _, _, _, _⟩
    simp only [Version.mk.injEq]
    exact ⟨major, minor, patch, preRelease, build⟩

end StoreMigration
