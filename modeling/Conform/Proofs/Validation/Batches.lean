import Conform.Validation

namespace Conform

namespace Validation

variable {α : Type} {size workers : Nat} {items : List α}

theorem flatMap_evaluateBatch (config : Config) (batches : List (List Constraint)) :
    batches.flatMap (evaluateBatch config) = batches.flatten.flatMap (·.evaluate config) := by
  induction batches with
  | nil => rfl
  | cons batch rest ih =>
    rw [List.flatMap_cons, ih, List.flatten_cons, List.flatMap_append]
    rfl

theorem pieces_nil (size : Nat) : pieces size ([] : List α) = [] := by
  rw [pieces, dif_neg (by simp)]

theorem pieces_of_pos (hs : 0 < size) (hi : 0 < items.length) :
    pieces size items = items.take size :: pieces size (items.drop size) := by
  rw [pieces, dif_pos ⟨hs, hi⟩]

theorem flatten_pieces (hs : 0 < size) (items : List α) : (pieces size items).flatten = items := by
  fun_induction pieces size items with
  | case1 items h ih => rw [List.flatten_cons, ih, List.take_append_drop]
  | case2 items h =>
    have hlength : items.length = 0 := by omega
    rw [List.eq_nil_of_length_eq_zero hlength, List.flatten_nil]

theorem length_pieces_le (hs : 0 < size) (n : Nat) (h : items.length ≤ size * n) :
    (pieces size items).length ≤ n := by
  induction n generalizing items with
  | zero =>
    rw [Nat.mul_zero, Nat.le_zero] at h
    rw [List.eq_nil_of_length_eq_zero h, pieces_nil]
    exact Nat.le_refl 0
  | succ n ih =>
    rcases Nat.eq_zero_or_pos items.length with hi | hi
    · rw [List.eq_nil_of_length_eq_zero hi, pieces_nil]
      exact Nat.zero_le _
    · have hdrop : (items.drop size).length ≤ size * n := by
        rw [List.length_drop]
        rw [Nat.mul_succ] at h
        omega
      rw [pieces_of_pos hs hi, List.length_cons]
      exact Nat.succ_le_succ (ih hdrop)

theorem le_size_mul (n : Nat) (hw : 0 < workers) : n ≤ (n + workers - 1) / workers * workers := by
  have h := Nat.lt_mul_div_succ (n + workers - 1) hw
  rw [Nat.mul_succ, Nat.mul_comm] at h
  omega

theorem size_pos {n : Nat} (hw : 0 < workers) (hn : workers ≤ n) :
    0 < (n + workers - 1) / workers :=
  Nat.div_pos (by omega) hw

theorem flatten_batches (workers : Nat) (items : List α) :
    (batches workers items).flatten = items := by
  rw [batches]
  split
  next => rw [List.flatten_singleton]
  next h => exact flatten_pieces (size_pos (by omega) (Nat.min_le_right _ _)) items

theorem length_batches_le (workers : Nat) (items : List α) :
    (batches workers items).length ≤ max 1 workers := by
  rw [batches]
  split
  next => exact Nat.le_max_left 1 workers
  next h =>
    have hw : 0 < min workers items.length := by omega
    have hsize := size_pos hw (Nat.min_le_right _ _)
    have hle := length_pieces_le hsize _ (le_size_mul items.length hw)
    omega

/-- The findings by the constraints, whatever the number of workers. -/
theorem run_eq (v : Validation) (config : Config) (spec : Specification) :
    v.run config spec =
      spec.findings ++ spec.constraints.flatMap (·.evaluate config) ++
        if v.strict then coverage config spec else [] := by
  rw [run, flatMap_evaluateBatch, flatten_batches]

end Validation

end Conform
