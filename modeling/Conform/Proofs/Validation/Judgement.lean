import Conform.Proofs.Store.Writes
import Conform.Proofs.Validation.Batches
import Mathlib.Data.List.Forall2

namespace Conform

namespace Config

theorem resolve_of_mem {config : Config} {key : String} {value : Value}
    (h : (key, value) ∈ config.entries) : config.resolve key = value := by
  rw [resolve, Store.get?_eq_some_iff.2 h]
  rfl

theorem filter_entries_eq (config : Config) (p : String → Bool) :
    config.entries.filter (fun (key, _) => p key) =
      (config.keys.filter p).map fun key => (key, config.resolve key) := by
  rw [Store.keys, List.filter_map, List.map_map]
  have hself : ∀ entry ∈ config.entries.filter (p ∘ Prod.fst),
      ((fun key => (key, config.resolve key)) ∘ Prod.fst) entry = entry := by
    intro entry hentry
    exact Prod.ext rfl (resolve_of_mem (List.mem_of_mem_filter hentry))
  rw [List.map_congr_left hself, List.map_id']
  rfl

end Config

namespace Constraint

def targetKeys (c : Constraint) (config : Config) : List String :=
  if c.pattern.isLiteral then [c.pattern.text] else config.keys.filter c.pattern.matchesKey

/-- Whether a value is to be checked: it is not passed over as null or as blank, and the rule
supports it. -/
def applies (c : Constraint) (value : Value) : Bool :=
  !(value.isNull && c.rule.skipsNull) && !(value.isBlank && c.rule.skipsBlank) &&
    c.rule.supports c.expectation value

def fails (c : Constraint) (config : Config) (key : String) : Bool :=
  c.applies (config.resolve key) && !c.rule.check c.expectation ⟨config, key, config.resolve key⟩

def violation (c : Constraint) (config : Config) (key : String) : Finding :=
  .violated key (config.resolve key) c.rule.name c.expectation c.source

/-- What there is to find about a constraint: that its rule does not accept its expectation, and
nothing else, or a violation for each key it is for whose value fails. -/
inductive Judged (config : Config) (c : Constraint) : List Finding → Prop
  | misconfigured (h : c.rule.accepts c.expectation = false) :
      Judged config c [.misconfigured c.rule.name c.expectation c.source]
  | violations (h : c.rule.accepts c.expectation = true) :
      Judged config c (((c.targetKeys config).filter (c.fails config)).map (c.violation config))

variable {c : Constraint} {config : Config} {findings : List Finding}

theorem nodup_targetKeys (c : Constraint) (config : Config) : (c.targetKeys config).Nodup := by
  rw [targetKeys]
  split
  next => simp
  next => exact config.distinct.filter _

theorem targets_eq (c : Constraint) (config : Config) :
    c.pattern.targets config =
      (c.targetKeys config).map fun key => (key, config.resolve key) := by
  rw [KeyPattern.targets, targetKeys]
  split
  next => rfl
  next => exact config.filter_entries_eq c.pattern.matchesKey

theorem skips_eq_not_applies (c : Constraint) (value : Value) :
    c.skips value = !c.applies value := by
  rw [skips, applies]
  cases value.isNull && c.rule.skipsNull <;> cases value.isBlank && c.rule.skipsBlank <;> rfl

theorem checkValue_resolve (c : Constraint) (config : Config) (key : String) :
    c.checkValue config key (config.resolve key) =
      if c.fails config key then some (c.violation config key) else none := by
  rw [checkValue, skips_eq_not_applies, fails]
  cases c.applies (config.resolve key) <;>
    cases c.rule.check c.expectation ⟨config, key, config.resolve key⟩ <;> rfl

theorem fails_eq_isSome (c : Constraint) (config : Config) (key : String) :
    c.fails config key = (c.checkValue config key (config.resolve key)).isSome := by
  rw [checkValue_resolve]
  cases c.fails config key <;> rfl

theorem filterMap_checkValue (c : Constraint) (config : Config) (keys : List String) :
    keys.filterMap (fun key => c.checkValue config key (config.resolve key)) =
      (keys.filter (c.fails config)).map (c.violation config) := by
  induction keys with
  | nil => rfl
  | cons key rest ih =>
    rw [List.filterMap_cons, checkValue_resolve, List.filter_cons, ih]
    cases c.fails config key <;> rfl

theorem judged_evaluate (config : Config) (c : Constraint) :
    Judged config c (c.evaluate config) := by
  rw [evaluate, misconfiguration?]
  cases haccepts : c.rule.accepts c.expectation with
  | false => exact .misconfigured haccepts
  | true =>
    have hviolations : (c.pattern.targets config).filterMap
          (fun (key, value) => c.checkValue config key value) =
        ((c.targetKeys config).filter (c.fails config)).map (c.violation config) := by
      rw [targets_eq, List.filterMap_map]
      exact c.filterMap_checkValue config (c.targetKeys config)
    rw [if_pos rfl]
    exact hviolations ▸ .violations haccepts

theorem Judged.eq_of_accepts (h : Judged config c findings)
    (haccepts : c.rule.accepts c.expectation = true) :
    findings = ((c.targetKeys config).filter (c.fails config)).map (c.violation config) := by
  cases h with
  | misconfigured hnot =>
    rw [hnot] at haccepts
    cases haccepts
  | violations => rfl

theorem Judged.kind (h : Judged config c findings) {finding : Finding} (hf : finding ∈ findings) :
    finding.kind = .misconfiguration ∨ finding.kind = .violation := by
  cases h with
  | misconfigured =>
    rw [List.mem_singleton] at hf
    rw [hf]
    exact .inl rfl
  | violations =>
    obtain ⟨key, -, rfl⟩ := List.mem_map.1 hf
    exact .inr rfl

end Constraint

namespace Specification

theorem foldl_append_eq (s : Specification) (parts : List Specification) :
    parts.foldl append s =
      ⟨s.constraints ++ parts.flatMap constraints, s.findings ++ parts.flatMap findings⟩ := by
  induction parts generalizing s with
  | nil => simp
  | cons part rest ih =>
    rw [List.foldl_cons, ih, append, List.flatMap_cons, List.flatMap_cons, List.append_assoc,
      List.append_assoc]

theorem aggregate_eq (parts : List Specification) :
    aggregate parts = ⟨parts.flatMap constraints, parts.flatMap findings⟩ := by
  rw [aggregate, foldl_append_eq, empty, List.nil_append, List.nil_append]

theorem aggregate_ofDeclarations (parts : List (List Declaration)) :
    aggregate (parts.map ofDeclarations) = ofDeclarations parts.flatten := by
  simp only [aggregate_eq, List.flatMap_def, List.map_map, ofDeclarations, List.filterMap_flatten]
  rfl

theorem mem_unspecified {spec : Specification} {config : Config} {key : String} :
    key ∈ spec.unspecified config ↔
      key ∈ config.keys ∧ ∀ c ∈ spec.constraints, c.pattern.matchesKey key = false := by
  rw [unspecified, Text.mem_sorted, List.mem_filter, covers]
  simp

end Specification

namespace Validation

/-- What there is to find about the keys of a configuration: nothing, unless every key needs a
constraint and some have none; then those keys, all in one finding. -/
inductive Uncovered (strict : Bool) (config : Config) (constraints : List Constraint) :
    List Finding → Prop
  | nothing (h : strict = true →
      ∀ key ∈ config.keys, ∃ c ∈ constraints, c.pattern.matchesKey key = true) :
      Uncovered strict config constraints []
  | unspecified {keys : List String} (hs : strict = true) (hne : keys ≠ [])
      (hk : ∀ key, key ∈ keys ↔
        key ∈ config.keys ∧ ∀ c ∈ constraints, c.pattern.matchesKey key = false) :
      Uncovered strict config constraints [.unspecified keys]

theorem uncovered_coverage (strict : Bool) (config : Config) (spec : Specification) :
    Uncovered strict config spec.constraints (if strict then coverage config spec else []) := by
  cases strict with
  | false => exact .nothing fun h => absurd h Bool.false_ne_true
  | true =>
    rw [if_pos rfl, coverage]
    split
    next hnil =>
      refine .nothing fun _ key hkey => ?_
      have hcovered : key ∉ spec.unspecified config := by simp [hnil]
      simpa [Specification.mem_unspecified, hkey] using hcovered
    next hne => exact .unspecified rfl hne fun key => Specification.mem_unspecified

variable {strict : Bool} {config : Config} {constraints : List Constraint} {findings : List Finding}

theorem Uncovered.length_le (h : Uncovered strict config constraints findings) :
    findings.length ≤ 1 := by
  cases h with
  | nothing => exact Nat.zero_le 1
  | unspecified => exact Nat.le_refl 1

theorem Uncovered.kind (h : Uncovered strict config constraints findings) {finding : Finding}
    (hf : finding ∈ findings) : finding.kind = .coverage := by
  cases h with
  | nothing => cases hf
  | unspecified =>
    rw [List.mem_singleton] at hf
    rw [hf]
    rfl

end Validation

end Conform
