import Mathlib.Data.List.Induction
import Mathlib.Data.List.TakeWhile
import Conform.Proofs.Properties.Escape

namespace Conform.Properties

variable {text front : List Char} {n n' : Nat} {opened : Option LogicalLine}
  {f : Nat → Nat}

theorem continues_concat (text : List Char) : continues (text ++ ['\\']) = !continues text := by
  change (trailing (text ++ ['\\']) % 2 == 1) = !(trailing text % 2 == 1)
  have h : trailing (text ++ ['\\']) = trailing text + 1 := by
    simp [trailing]
  rw [h]
  rcases Nat.mod_two_eq_zero_or_one (trailing text) with h | h <;> simp [Nat.add_mod, h]

theorem continues_concat_of_ne {c : Char} (hc : c ≠ '\\') (text : List Char) :
    continues (text ++ [c]) = false := by
  simp [continues, hc]

theorem eq_concat_of_continues (h : continues text = true) :
    ∃ front, text = front ++ ['\\'] ∧ continues front = false := by
  induction text using List.reverseRecOn with
  | nil => cases h
  | append_singleton front c =>
    by_cases hc : c = '\\'
    · rw [hc, continues_concat, Bool.not_eq_true'] at h
      exact ⟨front, by rw [hc], h⟩
    · rw [continues_concat_of_ne hc] at h
      cases h

theorem continues_dropLast (h : continues text = true) : continues text.dropLast = false := by
  obtain ⟨front, rfl, hfront⟩ := eq_concat_of_continues h
  rwa [List.dropLast_concat]

theorem continues_of_not_mem (h : '\\' ∉ text) : continues text = false := by
  rw [← Bool.not_eq_true]
  intro hcontinues
  obtain ⟨front, rfl, -⟩ := eq_concat_of_continues hcontinues
  exact h (by simp)

theorem continues_append (h : continues front = false) (back : List Char) :
    continues (front ++ back) = continues back := by
  induction back using List.reverseRecOn with
  | nil =>
    rw [List.append_nil, h]
    rfl
  | append_singleton back c ih =>
    rw [← List.append_assoc]
    by_cases hc : c = '\\'
    · rw [hc, continues_concat, continues_concat, ih]
    · rw [continues_concat_of_ne hc, continues_concat_of_ne hc]

theorem continues_dropBlanks (raw : List Char) : continues (dropBlanks raw) = continues raw := by
  have hblanks : continues (raw.takeWhile isBlank) = false := by
    apply continues_of_not_mem
    intro hmem
    have hblank : isBlank '\\' = true := List.mem_takeWhile_imp hmem
    cases hblank
  rw [← continues_append hblanks, dropBlanks, List.takeWhile_append_dropWhile]

def current (n : Nat) (opened : Option LogicalLine) (raw : List Char) : LogicalLine :=
  match opened with
  | none => ⟨n, dropBlanks raw⟩
  | some line => ⟨line.number, line.text ++ dropBlanks raw⟩

/-- What a line does: the entry that ends with it, if one does, and the one that it leaves open. -/
def step (n : Nat) (opened : Option LogicalLine) (raw : List Char) :
    Option LogicalLine × Option LogicalLine :=
  let line := current n opened raw
  if opened = none ∧ isIgnored line.text then (none, none)
  else if continues line.text then (none, some ⟨line.number, line.text.dropLast⟩)
  else (some line, none)

theorem logicalLines_cons (n : Nat) (opened : Option LogicalLine) (raw : List Char)
    (rest : List (List Char)) :
    logicalLines n opened (raw :: rest) =
      (step n opened raw).1.toList ++ logicalLines (n + 1) (step n opened raw).2 rest := by
  cases opened with
  | none =>
    rw [logicalLines, step, current]
    simp only [true_and]
    split
    next => rfl
    next => split <;> rfl
  | some line =>
    rw [logicalLines, step, current]
    simp only [reduceCtorEq, false_and, if_false]
    split <;> rfl

/-- An entry that a line continues has lost the backslash that continues it. -/
def Settled (opened : Option LogicalLine) : Prop := ∀ line ∈ opened, continues line.text = false

theorem settled_none : Settled none := by
  intro line h
  cases h

theorem continues_current (h : Settled opened) (n : Nat) (raw : List Char) :
    continues (current n opened raw).text = continues raw := by
  cases opened with
  | none => exact continues_dropBlanks raw
  | some line => exact (continues_append (h line rfl) _).trans (continues_dropBlanks raw)

theorem settled_step (n : Nat) (opened : Option LogicalLine) (raw : List Char) :
    Settled (step n opened raw).2 := by
  rw [step]
  split
  next => exact settled_none
  next =>
    split
    next hcontinues =>
      rintro line ⟨⟩
      exact continues_dropLast hcontinues
    next => exact settled_none

theorem step_closes {raw : List Char} (h : Settled opened) (hraw : continues raw = false) (n : Nat) :
    (step n opened raw).2 = none := by
  rw [step]
  rw [continues_current h, hraw]
  split <;> rfl

/-- An entry that ends with a line does not end in a backslash that would continue it. -/
theorem not_continues_of_step {raw : List Char} {line : LogicalLine}
    (h : line ∈ (step n opened raw).1) : continues line.text = false := by
  rw [step] at h
  split at h
  next => cases h
  next =>
    split at h
    next => cases h
    next hends =>
      cases h
      rwa [Bool.not_eq_true] at hends

theorem not_continues_of_mem_logicalLines {lines : List (List Char)} {line : LogicalLine}
    (h : Settled opened) (hline : line ∈ logicalLines n opened lines) :
    continues line.text = false := by
  induction lines generalizing n opened with
  | nil =>
    cases opened with
    | none => cases hline
    | some first =>
      rw [logicalLines, List.mem_singleton] at hline
      rw [hline]
      exact h first rfl
  | cons raw rest ih =>
    rw [logicalLines_cons, List.mem_append] at hline
    rcases hline with hended | hlater
    · exact not_continues_of_step (Option.mem_toList.1 hended)
    · exact ih (settled_step n opened raw) hlater

/-- The entries of lines behind others are those of the first lines and then their own, if the last
of the first lines does not continue. -/
theorem logicalLines_append {front : List (List Char)} (hopened : Settled opened)
    (hnone : front = [] → opened = none)
    (hlast : ∀ raw ∈ front.getLast?, continues raw = false) (n : Nat) (back : List (List Char)) :
    logicalLines n opened (front ++ back) =
      logicalLines n opened front ++ logicalLines (n + front.length) none back := by
  induction front generalizing n opened with
  | nil =>
    rw [hnone rfl]
    rfl
  | cons raw rest ih =>
    rw [List.cons_append, logicalLines_cons, logicalLines_cons, List.append_assoc,
      ih (settled_step n opened raw), List.length_cons, Nat.add_assoc, Nat.add_comm 1]
    · rintro rfl
      exact step_closes hopened (hlast raw rfl) n
    · intro last hmem
      cases rest with
      | nil => cases hmem
      | cons next rest => exact hlast last (by rw [List.getLast?_cons_cons]; exact hmem)

def LogicalLine.renumber (f : Nat → Nat) (line : LogicalLine) : LogicalLine :=
  ⟨f line.number, line.text⟩

theorem current_renumber (h : f n = n') (opened : Option LogicalLine) (raw : List Char) :
    current n' (opened.map (·.renumber f)) raw = (current n opened raw).renumber f := by
  cases opened with
  | none => rw [← h]; rfl
  | some line => rfl

theorem step_renumber (h : f n = n') (opened : Option LogicalLine) (raw : List Char) :
    step n' (opened.map (·.renumber f)) raw =
      ((step n opened raw).1.map (·.renumber f), (step n opened raw).2.map (·.renumber f)) := by
  rw [step, step, current_renumber h]
  have htext : ((current n opened raw).renumber f).text = (current n opened raw).text := rfl
  simp only [htext, Option.map_eq_none_iff]
  split
  next => rfl
  next => split <;> rfl

/-- The numbers that lines have do not count for what the entries are. -/
theorem logicalLines_renumber (h : ∀ i, f (n + i) = n' + i) (opened : Option LogicalLine)
    (lines : List (List Char)) :
    logicalLines n' (opened.map (·.renumber f)) lines =
      (logicalLines n opened lines).map (·.renumber f) := by
  induction lines generalizing n n' opened with
  | nil => cases opened <;> rfl
  | cons raw rest ih =>
    have hnext : ∀ i, f (n + 1 + i) = n' + 1 + i := by
      intro i
      rw [Nat.add_assoc, h, Nat.add_assoc]
    have hn : f n = n' := h 0
    rw [logicalLines_cons, logicalLines_cons, step_renumber hn, ih hnext, List.map_append,
      Option.toList_map]

end Conform.Properties
