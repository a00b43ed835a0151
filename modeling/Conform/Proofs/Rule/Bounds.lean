import Conform.Constraint
import Conform.Proofs.Value.Order

namespace Conform

namespace Bounds

variable {a b : Value}

theorem sameFamily_of_atMost (h : a.atMost b = true) (v : Value) :
    sameFamily a v = sameFamily b v := by
  have hform : ∀ w : Value, w.isNumeric = true → w.isText = false := by
    intro w hw
    cases w <;> first | rfl | cases hw
  rcases Value.atMost_iff.1 h with ⟨s, t, rfl, rfl, -⟩ | ⟨x, y, hx, hy, -⟩
  · rfl
  · have ha : a.isNumeric = true := (Value.exists_place?_iff.1 ⟨x, hx⟩).1
    have hb : b.isNumeric = true := (Value.exists_place?_iff.1 ⟨y, hy⟩).1
    rw [sameFamily, sameFamily, ha, hb, hform a ha, hform b hb]

end Bounds

namespace Constraint

variable {c : Constraint} {bound value : Value} {config : Config} {key : String}

theorem checkValue_eq_none_iff :
    c.checkValue config key value = none ↔
      c.skips value = true ∨ c.rule.check c.expectation ⟨config, key, value⟩ = true := by
  rw [checkValue, ← Bool.or_eq_true]
  split
  next h => exact iff_of_true rfl h
  next h => exact iff_of_false (by simp) h

/-- An expectation that applies to the same values and holds of as many raises no new violation. -/
theorem checkValue_of_weaker
    (hsupports : c.rule.supports bound value = c.rule.supports c.expectation value)
    (hcheck : c.rule.check c.expectation ⟨config, key, value⟩ = true →
      c.rule.check bound ⟨config, key, value⟩ = true)
    (h : c.checkValue config key value = none) :
    { c with expectation := bound }.checkValue config key value = none := by
  have hskips : { c with expectation := bound }.skips value = c.skips value := by
    rw [skips, skips, hsupports]
  rw [checkValue_eq_none_iff, hskips]
  exact (checkValue_eq_none_iff.1 h).imp_right hcheck

theorem checkValue_min (hrule : c.rule = .min) (hbound : bound.atMost c.expectation = true)
    (h : c.checkValue config key value = none) :
    { c with expectation := bound }.checkValue config key value = none := by
  apply checkValue_of_weaker ?_ ?_ h
  · rw [hrule]
    exact Bounds.sameFamily_of_atMost hbound value
  · rw [hrule]
    intro hcheck
    change value.atLeast bound = true
    have hvalue : c.expectation.atMost value = true := by
      rw [← Value.atLeast_eq_atMost]
      exact hcheck
    rw [Value.atLeast_eq_atMost]
    exact Value.atMost_trans hbound hvalue

theorem checkValue_max (hrule : c.rule = .max) (hbound : c.expectation.atMost bound = true)
    (h : c.checkValue config key value = none) :
    { c with expectation := bound }.checkValue config key value = none := by
  apply checkValue_of_weaker ?_ ?_ h
  · rw [hrule]
    exact (Bounds.sameFamily_of_atMost hbound value).symm
  · rw [hrule]
    intro hcheck
    have hvalue : value.atMost c.expectation = true := hcheck
    exact Value.atMost_trans hvalue hbound

end Constraint

/-- Values are comparable if both are texts or both are numbers, texts in their order and numbers by
their places. This is a total preorder: exchanging two values reverses it, each is equal to itself,
and it is transitive. A value that a lower or an upper bound lets pass is let pass by every bound
that is lower or higher. -/
theorem Value.compare_preorder (a b c : Value) :
    ((a.compare b).isSome = true ↔
      (a.isText = true ∧ b.isText = true) ∨
        (a.isNumeric = true ∧ a ≠ double .nan) ∧ b.isNumeric = true ∧ b ≠ double .nan) ∧
    (∀ o, a.compare b = some o ↔
      (∃ s t, a = text s ∧ b = text t ∧ Ord.compare s t = o) ∨
        ∃ x y, a.place? = some x ∧ b.place? = some y ∧ Ord.compare x y = o) ∧
    b.compare a = (a.compare b).map Ordering.swap ∧
    ((a.compare b).isSome = true → a.compare a = some .eq) ∧
    (a.atMost b = true → b.atMost c = true → a.atMost c = true) ∧
    ∀ (constraint : Constraint) (bound : Value) (config : Config) (key : String) (value : Value),
      constraint.checkValue config key value = none →
        (constraint.rule = .min → bound.atMost constraint.expectation = true →
          { constraint with expectation := bound }.checkValue config key value = none) ∧
        (constraint.rule = .max → constraint.expectation.atMost bound = true →
          { constraint with expectation := bound }.checkValue config key value = none) := by
  refine ⟨isSome_compare_iff, fun o => compare_eq_some_iff, compare_swap a b, compare_self,
    atMost_trans, ?_⟩
  intro constraint bound config key value hpass
  constructor
  · intro hrule hbound
    exact Constraint.checkValue_min hrule hbound hpass
  · intro hrule hbound
    exact Constraint.checkValue_max hrule hbound hpass

end Conform
