import Conform.Specification

namespace Conform

namespace Rule

variable {r : Rule} {name : String}

theorem validator_not_mem_all (predicate : Predicate) : validator (some predicate) ∉ all := by
  simp [all]

theorem custom_not_mem_all (judge : Judge) : custom judge ∉ all := by
  simp [all]

theorem ofName?_name (h : r ∈ all) : ofName? r.name = some r := by
  cases r with
  | validator predicate? =>
    cases predicate? with
    | none => rfl
    | some predicate => exact absurd h (validator_not_mem_all predicate)
  | custom judge => exact absurd h (custom_not_mem_all judge)
  | _ => rfl

theorem ofName?_eq_some_iff : ofName? name = some r ↔ r ∈ all ∧ r.name = name := by
  constructor
  · intro h
    exact ⟨List.mem_of_find?_eq_some h, by simpa using List.find?_some h⟩
  · rintro ⟨h, rfl⟩
    exact ofName?_name h

theorem ofName?_eq_none_iff : ofName? name = none ↔ ∀ r ∈ all, r.name ≠ name := by
  simp [ofName?]

end Rule

/-- The rule that a reference stands for: the one that is given, or the built-in one of that name. -/
inductive RuleReference.Denotes : RuleReference → Rule → Prop
  | given (rule : Rule) : Denotes (.given rule) rule
  | named {rule : Rule} (h : rule ∈ Rule.all) : Denotes (.named rule.name) rule

namespace Declaration

/-- What comes of a declaration. Whether there is a rule of its name is asked before its key is
read. -/
inductive ComesTo (d : Declaration) : Except Finding Constraint → Prop
  | constraint {rule : Rule} {pattern : KeyPattern} (hrule : d.rule.Denotes rule)
      (hkey : KeyPattern.parse d.key = .ok pattern) :
      ComesTo d (.ok ⟨pattern, rule, d.expectation, d.source⟩)
  | unknownRule {name : String} (hrule : d.rule = .named name)
      (hnone : ∀ rule ∈ Rule.all, rule.name ≠ name) :
      ComesTo d (.error (.unknownRule name d.key d.source))
  | invalidPattern {rule : Rule} {reason : KeyPattern.Error} (hrule : d.rule.Denotes rule)
      (hkey : KeyPattern.parse d.key = .error reason) :
      ComesTo d (.error (.invalidPattern d.key reason.message d.source))

variable {d : Declaration} {outcome : Except Finding Constraint}

theorem resolve_of_pattern {rule : Rule} {pattern : KeyPattern} (hrule : d.rule.Denotes rule)
    (hkey : KeyPattern.parse d.key = .ok pattern) :
    d.resolve = .ok ⟨pattern, rule, d.expectation, d.source⟩ := by
  obtain ⟨key, reference, expectation, source⟩ := d
  cases hrule with
  | given => simp only [resolve, hkey]
  | named hmem => simp only [resolve, Rule.ofName?_name hmem, hkey]

theorem resolve_of_reason {rule : Rule} {reason : KeyPattern.Error} (hrule : d.rule.Denotes rule)
    (hkey : KeyPattern.parse d.key = .error reason) :
    d.resolve = .error (.invalidPattern d.key reason.message d.source) := by
  obtain ⟨key, reference, expectation, source⟩ := d
  cases hrule with
  | given => simp only [resolve, hkey]
  | named hmem => simp only [resolve, Rule.ofName?_name hmem, hkey]

theorem resolve_of_unknown {name : String} (hrule : d.rule = .named name)
    (hnone : ∀ rule ∈ Rule.all, rule.name ≠ name) :
    d.resolve = .error (.unknownRule name d.key d.source) := by
  rw [resolve, hrule]
  simp only [Rule.ofName?_eq_none_iff.2 hnone]

theorem ComesTo.resolve_eq (h : d.ComesTo outcome) : d.resolve = outcome := by
  cases h with
  | constraint hrule hkey => exact resolve_of_pattern hrule hkey
  | unknownRule hrule hnone => exact resolve_of_unknown hrule hnone
  | invalidPattern hrule hkey => exact resolve_of_reason hrule hkey

theorem comesTo_of_denotes {rule : Rule} (h : d.rule.Denotes rule) : d.ComesTo d.resolve := by
  cases hkey : KeyPattern.parse d.key with
  | ok pattern =>
    rw [resolve_of_pattern h hkey]
    exact .constraint h hkey
  | error reason =>
    rw [resolve_of_reason h hkey]
    exact .invalidPattern h hkey

theorem comesTo_resolve (d : Declaration) : d.ComesTo d.resolve := by
  cases hrule : d.rule with
  | given rule =>
    have hdenotes : d.rule.Denotes rule := by
      rw [hrule]
      exact .given rule
    exact comesTo_of_denotes hdenotes
  | named name =>
    cases hname : Rule.ofName? name with
    | none =>
      have hnone := Rule.ofName?_eq_none_iff.1 hname
      rw [resolve_of_unknown hrule hnone]
      exact .unknownRule hrule hnone
    | some rule =>
      obtain ⟨hmem, rfl⟩ := Rule.ofName?_eq_some_iff.1 hname
      have hdenotes : d.rule.Denotes rule := by
        rw [hrule]
        exact .named hmem
      exact comesTo_of_denotes hdenotes

theorem comesTo_iff : d.ComesTo outcome ↔ d.resolve = outcome :=
  ⟨ComesTo.resolve_eq, fun h => h ▸ d.comesTo_resolve⟩

theorem constraint?_eq_some_iff {c : Constraint} :
    d.constraint? = some c ↔ d.ComesTo (.ok c) := by
  rw [comesTo_iff, constraint?]
  cases d.resolve <;> simp

theorem finding?_eq_some_iff {finding : Finding} :
    d.finding? = some finding ↔ d.ComesTo (.error finding) := by
  rw [comesTo_iff, finding?]
  cases d.resolve <;> simp

end Declaration

end Conform
