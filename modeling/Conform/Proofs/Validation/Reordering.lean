import Conform.Proofs.Specification.Declaration
import Conform.Proofs.Validation.Batches
import Conform.Proofs.Validation.Coverage

namespace Conform

theorem Rule.check_eq_of_mem_all {r : Rule} (h : r ∈ all) (expectation : Value)
    (config config' : Config) (key : String) (value : Value) :
    r.check expectation ⟨config, key, value⟩ = r.check expectation ⟨config', key, value⟩ := by
  cases r with
  | validator predicate? =>
    cases predicate? with
    | none => rfl
    | some predicate => exact absurd h (validator_not_mem_all predicate)
  | custom judge => exact absurd h (custom_not_mem_all judge)
  | _ => rfl

theorem Specification.rule_mem_all_of_named {declarations : List Declaration}
    (h : ∀ d ∈ declarations, ∃ name, d.rule = .named name) :
    ∀ c ∈ (ofDeclarations declarations).constraints, c.rule ∈ Rule.all := by
  intro c hc
  obtain ⟨d, hd, hmade⟩ := List.mem_filterMap.1 hc
  obtain ⟨name, hname⟩ := h d hd
  cases Declaration.constraint?_eq_some_iff.1 hmade with
  | constraint hrule _ =>
    rw [hname] at hrule
    cases hrule with
    | named hmem => exact hmem

section

variable {config config' : Config}

theorem Config.resolve_eq_of_perm (h : config.entries.Perm config'.entries) (key : String) :
    config.resolve key = config'.resolve key := by
  rw [resolve, resolve, Store.get?_eq_of_perm h]

theorem KeyPattern.targets_perm (h : config.entries.Perm config'.entries) (p : KeyPattern) :
    (p.targets config).Perm (p.targets config') := by
  rw [targets, targets]
  split
  next => rw [Config.resolve_eq_of_perm h]
  next => exact h.filter _

theorem KeyPattern.targets_eq_of_perm (h : config.entries.Perm config'.entries) {p : KeyPattern}
    (hp : p.isLiteral = true) : p.targets config = p.targets config' := by
  rw [targets, targets, if_pos hp, if_pos hp, Config.resolve_eq_of_perm h]

namespace Constraint

variable {c : Constraint}

theorem checkValue_eq_of_mem_all (hrule : c.rule ∈ Rule.all) (config config' : Config)
    (key : String) (value : Value) :
    c.checkValue config key value = c.checkValue config' key value := by
  rw [checkValue, checkValue, Rule.check_eq_of_mem_all hrule]

theorem evaluate_perm (hrule : c.rule ∈ Rule.all) (h : config.entries.Perm config'.entries) :
    (c.evaluate config).Perm (c.evaluate config') := by
  rw [evaluate, evaluate]
  cases c.misconfiguration? with
  | some finding => exact .refl _
  | none =>
    simp only [checkValue_eq_of_mem_all hrule config config']
    exact (c.pattern.targets_perm h).filterMap _

theorem evaluate_eq_of_isLiteral (hrule : c.rule ∈ Rule.all)
    (h : config.entries.Perm config'.entries) (hp : c.pattern.isLiteral = true) :
    c.evaluate config = c.evaluate config' := by
  rw [evaluate, evaluate, KeyPattern.targets_eq_of_perm h hp]
  simp only [checkValue_eq_of_mem_all hrule config config']

theorem evaluate_of_not_accepts (h : c.rule.accepts c.expectation = false) (config : Config) :
    c.evaluate config = [.misconfigured c.rule.name c.expectation c.source] := by
  rw [evaluate, misconfiguration?, h]
  rfl

/-- What is found about a constraint is the same in all configurations, except for violations. -/
theorem filter_evaluate_eq (c : Constraint) {kind : Finding.Kind} (hkind : kind ≠ .violation)
    (config config' : Config) :
    (c.evaluate config).filter (·.kind = kind) = (c.evaluate config').filter (·.kind = kind) := by
  cases haccepts : c.rule.accepts c.expectation with
  | false => rw [evaluate_of_not_accepts haccepts, evaluate_of_not_accepts haccepts]
  | true =>
    have hnone (config : Config) : (c.evaluate config).filter (·.kind = kind) = [] := by
      rw [(judged_evaluate config c).eq_of_accepts haccepts, List.filter_eq_nil_iff]
      intro finding hfinding
      obtain ⟨key, -, rfl⟩ := List.mem_map.1 hfinding
      rw [decide_eq_true_eq]
      exact hkind.symm
    rw [hnone, hnone]

end Constraint

theorem Specification.unspecified_eq_of_perm (h : config.entries.Perm config'.entries)
    (spec : Specification) : spec.unspecified config = spec.unspecified config' := by
  apply eq_unspecified (spec.pairwise_unspecified config)
  intro key
  have hkeys : key ∈ config.keys ↔ key ∈ config'.keys := (h.map Prod.fst).mem_iff
  rw [mem_unspecified, mem_unspecified, hkeys]

namespace Validation

variable {spec : Specification}

theorem coverage_eq_of_perm (h : config.entries.Perm config'.entries) (spec : Specification) :
    coverage config spec = coverage config' spec := by
  rw [coverage, coverage, spec.unspecified_eq_of_perm h]

theorem run_perm (v : Validation) (hspec : ∀ c ∈ spec.constraints, c.rule ∈ Rule.all)
    (h : config.entries.Perm config'.entries) : (v.run config spec).Perm (v.run config' spec) := by
  have hjudged : (spec.constraints.flatMap (·.evaluate config)).Perm
      (spec.constraints.flatMap (·.evaluate config')) :=
    .flatMap_left _ fun c hc => Constraint.evaluate_perm (hspec c hc) h
  rw [run_eq, run_eq, coverage_eq_of_perm h]
  exact (hjudged.append_left _).append_right _

theorem filter_run_eq (v : Validation) (spec : Specification)
    (h : config.entries.Perm config'.entries) {kind : Finding.Kind} (hkind : kind ≠ .violation) :
    (v.run config spec).filter (·.kind = kind) = (v.run config' spec).filter (·.kind = kind) := by
  have hjudged : (spec.constraints.flatMap (·.evaluate config)).filter (·.kind = kind) =
      (spec.constraints.flatMap (·.evaluate config')).filter (·.kind = kind) := by
    rw [List.filter_flatMap, List.filter_flatMap]
    apply List.flatMap_congr
    intro c _
    exact c.filter_evaluate_eq hkind config config'
  rw [run_eq, run_eq, coverage_eq_of_perm h, List.filter_append, List.filter_append,
    List.filter_append, List.filter_append, hjudged]

/-- Built-in rules find the same fault with two configurations that hold the same entries in different
orders: with the keys that a literal pattern is for one and the same, with those of a pattern with
wildcards up to their order. All that is no violation is found in the same order, and so are the keys
without constraint. -/
theorem run_of_reordered (v : Validation) (hspec : ∀ c ∈ spec.constraints, c.rule ∈ Rule.all)
    (h : config.entries.Perm config'.entries) :
    (∀ c ∈ spec.constraints, (c.evaluate config).Perm (c.evaluate config') ∧
      (c.pattern.isLiteral = true → c.evaluate config = c.evaluate config')) ∧
    (∃ uncovered,
      v.run config spec =
        spec.findings ++ spec.constraints.flatMap (·.evaluate config) ++ uncovered ∧
      v.run config' spec =
        spec.findings ++ spec.constraints.flatMap (·.evaluate config') ++ uncovered) ∧
    (v.run config spec).Perm (v.run config' spec) ∧
    (∀ kind : Finding.Kind, kind ≠ .violation →
      (v.run config spec).filter (·.kind = kind) = (v.run config' spec).filter (·.kind = kind)) ∧
    spec.unspecified config = spec.unspecified config' := by
  refine ⟨?_, ?_, run_perm v hspec h, ?_, spec.unspecified_eq_of_perm h⟩
  · intro c hc
    exact ⟨Constraint.evaluate_perm (hspec c hc) h,
      Constraint.evaluate_eq_of_isLiteral (hspec c hc) h⟩
  · refine ⟨if v.strict then coverage config spec else [], run_eq v config spec, ?_⟩
    rw [run_eq, coverage_eq_of_perm h]
  · intro kind hkind
    exact filter_run_eq v spec h hkind

def served : Config where
  entries := [("db.port", .integer 80), ("zones", .null), ("db.size", .integer 12),
    ("mode", .text "on")]
  distinct := by decide

def servedBack : Config := ⟨served.entries.reverse, by decide⟩

theorem run_of_reordered_served :
    (∀ c ∈ audit.constraints, c.rule ∈ Rule.all) ∧
      served.entries.Perm servedBack.entries ∧
      ((default.withStrict true).run served audit).filterMap Finding.key? =
        ["zone", "db.port", "db.size"] ∧
      ((default.withStrict true).run servedBack audit).filterMap Finding.key? =
        ["zone", "db.size", "db.port"] ∧
      ((default.withStrict true).run served audit).Perm
        ((default.withStrict true).run servedBack audit) ∧
      audit.unspecified served = audit.unspecified servedBack := by
  have hspec : ∀ c ∈ audit.constraints, c.rule ∈ Rule.all := by
    apply Specification.rule_mem_all_of_named
    simp
  have hperm : served.entries.Perm servedBack.entries := (List.reverse_perm served.entries).symm
  obtain ⟨-, -, hrun, -, hkeys⟩ := run_of_reordered (default.withStrict true) hspec hperm
  exact ⟨hspec, hperm, rfl, rfl, hrun, hkeys⟩

end Validation

end

end Conform
