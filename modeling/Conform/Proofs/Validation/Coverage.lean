import Conform.Proofs.KeyPattern.Reading
import Conform.Proofs.Validation.Judgement
import Mathlib.Data.List.Sort

namespace Conform

namespace Specification

variable {spec : Specification} {config : Config} {key : String}

theorem Parsed.mem_unspecified_iff (h : spec.Parsed) (hk : key ∈ config.keys) :
    key ∈ spec.unspecified config ↔
      ∀ c ∈ spec.constraints, key ∉ (c.pattern.targets config).map Prod.fst := by
  rw [mem_unspecified]
  constructor
  · rintro ⟨-, hnone⟩ c hc htarget
    rw [(h c hc).mem_targets_iff hk, hnone c hc] at htarget
    cases htarget
  · intro hnone
    refine ⟨hk, fun c hc => ?_⟩
    rw [← Bool.not_eq_true, ← (h c hc).mem_targets_iff hk]
    exact hnone c hc

theorem pairwise_unspecified (spec : Specification) (config : Config) :
    (spec.unspecified config).Pairwise (· < ·) :=
  Text.pairwise_sorted _

theorem eq_unspecified {keys : List String} (hkeys : keys.Pairwise (· < ·))
    (h : ∀ key, key ∈ keys ↔ key ∈ spec.unspecified config) : keys = spec.unspecified config :=
  hkeys.eq_of_mem_iff (spec.pairwise_unspecified config) h

end Specification

namespace Validation

theorem run_strict (v : Validation) (config : Config) (spec : Specification) :
    (v.withStrict true).run config spec =
      (v.withStrict false).run config spec ++
        if spec.unspecified config = [] then [] else [.unspecified (spec.unspecified config)] := by
  rw [run_eq, run_eq]
  simp only [withStrict, if_true, Bool.false_eq_true, if_false, List.append_nil, coverage]
  congr 1
  split
  next hnil => rw [if_pos hnil]
  next hne => rw [if_neg hne]

/-- Asking for a constraint for every key adds one finding with the keys that no constraint is for,
in the order of code points, or none if there is no such key. -/
theorem strict_reports_untargeted (config : Config) (spec : Specification) (h : spec.Parsed) :
    (∀ key ∈ config.keys, key ∈ spec.unspecified config ↔
      ∀ c ∈ spec.constraints, key ∉ (c.pattern.targets config).map Prod.fst) ∧
    (∀ key ∈ spec.unspecified config, key ∈ config.keys) ∧
    (spec.unspecified config).Pairwise (· < ·) ∧
    (∀ v : Validation, (v.withStrict true).run config spec =
      (v.withStrict false).run config spec ++
        if spec.unspecified config = [] then [] else [.unspecified (spec.unspecified config)]) ∧
    ∀ p : KeyPattern, p.Parsed → p.isLiteral = true →
      ∀ key, p.matchesKey key = true ↔ key = p.text := by
  refine ⟨fun key hk => h.mem_unspecified_iff hk, ?_, Text.pairwise_sorted _, ?_, ?_⟩
  · intro key hkey
    exact (Specification.mem_unspecified.1 hkey).1
  · intro v
    exact run_strict v config spec
  · intro p hp hl key
    exact hp.matchesKey_iff hl key

def audit : Specification := .ofDeclarations [
  ⟨"mode", .named "in_list", .list [], ⟨"audit", 1, Nat.succ_pos _⟩⟩,
  ⟨"zone", .named "nullable", .flag false, ⟨"audit", 2, Nat.succ_pos _⟩⟩,
  ⟨"db.*", .named "min", .integer 1024, ⟨"audit", 3, Nat.succ_pos _⟩⟩]

def audited : Config where
  entries := [("zones", .null), ("db.port", .integer 80), ("mode", .text "on"), ("db", .null),
    ("db.port.", .null)]
  distinct := by decide

theorem audit_reports_untargeted :
    audit.Parsed ∧ audited.keys = ["zones", "db.port", "mode", "db", "db.port."] ∧
      (∀ c ∈ audit.constraints, "zones" ∉ (c.pattern.targets audited).map Prod.fst) ∧
      (¬ ∀ c ∈ audit.constraints, "mode" ∉ (c.pattern.targets audited).map Prod.fst) ∧
      (default.withStrict true).run audited audit =
        (default.withStrict false).run audited audit ++ [.unspecified ["db", "db.port.", "zones"]] := by
  have h : audit.Parsed := Specification.parsed_ofDeclarations _
  have hkeys : audit.unspecified audited = ["db", "db.port.", "zones"] := by cbv
  obtain ⟨htargets, -, -, hrun, -⟩ := strict_reports_untargeted audited audit h
  refine ⟨h, rfl, (htargets _ ?_).1 ?_, fun hnone => ?_, ?_⟩
  · decide
  · rw [hkeys]
    decide
  · have hmode := (htargets "mode" (by decide)).2 hnone
    rw [hkeys] at hmode
    exact absurd hmode (by decide)
  · rw [hrun, hkeys]
    rfl

end Validation

end Conform
