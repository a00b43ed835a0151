import Conform.Proofs.Specification.Declaration
import Conform.Proofs.Validation.Aggregation

namespace Conform

namespace Declaration

/-- The constraints and findings that declarations come to: each of them to one of these, in order. -/
inductive Account : List Declaration → List Constraint → List Finding → Prop
  | nil : Account [] [] []
  | constraint {d : Declaration} {c : Constraint} {declarations : List Declaration}
      {constraints : List Constraint} {findings : List Finding} (h : d.ComesTo (.ok c))
      (rest : Account declarations constraints findings) :
      Account (d :: declarations) (c :: constraints) findings
  | finding {d : Declaration} {finding : Finding} {declarations : List Declaration}
      {constraints : List Constraint} {findings : List Finding} (h : d.ComesTo (.error finding))
      (rest : Account declarations constraints findings) :
      Account (d :: declarations) constraints (finding :: findings)

/-- A declaration that makes a constraint. -/
def Valid (d : Declaration) : Prop := ∃ c, d.ComesTo (.ok c)

theorem isSome_constraint?_iff {d : Declaration} : d.constraint?.isSome = true ↔ d.Valid := by
  simp only [Option.isSome_iff_exists, constraint?_eq_some_iff, Valid]

instance : DecidablePred Valid := fun _ => decidable_of_iff _ isSome_constraint?_iff

end Declaration

namespace Specification

variable {d : Declaration} {c : Constraint} {finding : Finding} {declarations : List Declaration}
  {constraints : List Constraint} {findings : List Finding}

def declare (s : Specification) (d : Declaration) : Specification :=
  match d.resolve with
  | .ok c => { s with constraints := s.constraints ++ [c] }
  | .error finding => { s with findings := s.findings ++ [finding] }

theorem declare_of_ok (h : d.ComesTo (.ok c)) (s : Specification) :
    s.declare d = ⟨s.constraints ++ [c], s.findings⟩ := by
  simp only [declare, h.resolve_eq]

theorem declare_of_error (h : d.ComesTo (.error finding)) (s : Specification) :
    s.declare d = ⟨s.constraints, s.findings ++ [finding]⟩ := by
  simp only [declare, h.resolve_eq]

theorem foldl_declare (h : Declaration.Account declarations constraints findings)
    (s : Specification) :
    declarations.foldl declare s = ⟨s.constraints ++ constraints, s.findings ++ findings⟩ := by
  induction h generalizing s with
  | nil => rw [List.foldl_nil, List.append_nil, List.append_nil]
  | constraint h _ ih =>
    rw [List.foldl_cons, declare_of_ok h, ih, List.append_assoc]
    rfl
  | finding h _ ih =>
    rw [List.foldl_cons, declare_of_error h, ih, List.append_assoc]
    rfl

theorem ofDeclarations_cons_of_ok (h : d.ComesTo (.ok c)) (declarations : List Declaration) :
    ofDeclarations (d :: declarations) =
      ⟨c :: (ofDeclarations declarations).constraints, (ofDeclarations declarations).findings⟩ := by
  simp [ofDeclarations, Declaration.constraint?, Declaration.finding?, h.resolve_eq]

theorem ofDeclarations_cons_of_error (h : d.ComesTo (.error finding))
    (declarations : List Declaration) :
    ofDeclarations (d :: declarations) =
      ⟨(ofDeclarations declarations).constraints,
        finding :: (ofDeclarations declarations).findings⟩ := by
  simp [ofDeclarations, Declaration.constraint?, Declaration.finding?, h.resolve_eq]

theorem account_ofDeclarations (declarations : List Declaration) :
    Declaration.Account declarations (ofDeclarations declarations).constraints
      (ofDeclarations declarations).findings := by
  induction declarations with
  | nil => exact .nil
  | cons d rest ih =>
    have hd := d.comesTo_resolve
    cases hresolve : d.resolve with
    | ok c =>
      rw [hresolve] at hd
      rw [ofDeclarations_cons_of_ok hd]
      exact .constraint hd ih
    | error finding =>
      rw [hresolve] at hd
      rw [ofDeclarations_cons_of_error hd]
      exact .finding hd ih

theorem ofDeclarations_of_account (h : Declaration.Account declarations constraints findings) :
    ofDeclarations declarations = ⟨constraints, findings⟩ := by
  induction h with
  | nil => rfl
  | constraint h _ ih => rw [ofDeclarations_cons_of_ok h, ih]
  | finding h _ ih => rw [ofDeclarations_cons_of_error h, ih]

theorem foldl_declare_empty (declarations : List Declaration) :
    declarations.foldl declare empty = ofDeclarations declarations := by
  rw [foldl_declare (account_ofDeclarations declarations), empty, List.nil_append, List.nil_append]

theorem constraints_filter_valid (declarations : List Declaration) :
    (ofDeclarations (declarations.filter (·.Valid))).constraints =
      (ofDeclarations declarations).constraints := by
  rw [ofDeclarations, ofDeclarations, List.filterMap_filter]
  apply List.filterMap_congr
  intro d _
  split
  next => rfl
  next hvalid =>
    rw [decide_eq_true_eq, ← Declaration.isSome_constraint?_iff, Option.not_isSome_iff_eq_none]
      at hvalid
    exact hvalid.symm

/-- Every declaration comes to one constraint or one finding, and these are all that there is, in the
order of the declarations, whether they are read at once or one after another. Declarations that come
to findings do nothing else: without them, or with others of them anywhere, the constraints are the
same, and so is what is found about them and about the keys. -/
theorem ofDeclarations_accounts (declarations : List Declaration) :
    (∀ s : Specification, Declaration.Account declarations s.constraints s.findings ↔
      ofDeclarations declarations = s) ∧
    declarations.foldl declare empty = ofDeclarations declarations ∧
    ∀ others, others.filter (·.Valid) = declarations.filter (·.Valid) →
      (ofDeclarations others).constraints = (ofDeclarations declarations).constraints ∧
      (∀ key, (ofDeclarations others).covers key = (ofDeclarations declarations).covers key) ∧
      ∀ (v : Validation) (config : Config),
        v.run config (ofDeclarations others) = (ofDeclarations others).findings ++
          Validation.judge v.workers config (ofDeclarations declarations).constraints ++
            if v.strict then Validation.coverage config (ofDeclarations declarations) else [] := by
  refine ⟨fun s => ⟨ofDeclarations_of_account, ?_⟩, foldl_declare_empty declarations, ?_⟩
  · rintro rfl
    exact account_ofDeclarations declarations
  · intro others hvalid
    have hconstraints : (ofDeclarations others).constraints =
        (ofDeclarations declarations).constraints := by
      rw [← constraints_filter_valid, hvalid, constraints_filter_valid]
    have hcovers : ∀ key, (ofDeclarations others).covers key =
        (ofDeclarations declarations).covers key := by
      intro key
      rw [covers, covers, hconstraints]
    refine ⟨hconstraints, hcovers, fun v config => ?_⟩
    have hcoverage : Validation.coverage config (ofDeclarations others) =
        Validation.coverage config (ofDeclarations declarations) := by
      simp only [Validation.coverage, unspecified, hcovers]
    rw [Validation.run_eq_judge, hconstraints, hcoverage]

def limitsLine (before : Nat) : SourceLine :=
  ⟨"limits", before + 1, before.succ_pos⟩

def limits : List Declaration := [
  ⟨"pool.max", .named "max", .integer 10, limitsLine 0⟩,
  ⟨"pool..min", .named "minimum", .integer 1, limitsLine 1⟩,
  ⟨"pool..min", .named "min", .integer 1, limitsLine 2⟩,
  ⟨"pool.*", .given (.validator (some fun _ _ value => value)), .null, limitsLine 3⟩,
  ⟨"po*l", .given (.custom ⟨"odd", fun _ => true, fun _ _ => true, true, true,
    fun _ _ _ _ => true⟩), .null, limitsLine 4⟩]

theorem ofDeclarations_accounts_limits :
    (limits.take 1 ++ limits.drop 3).filter (·.Valid) = limits.filter (·.Valid) ∧
      (limits.foldl declare empty).findings =
        [.unknownRule "minimum" "pool..min" (limitsLine 1),
          .invalidPattern "pool..min" "segment 1 is empty" (limitsLine 2),
          .invalidPattern "po*l" "segment 'po*l' mixes a wildcard with literal text"
            (limitsLine 4)] ∧
      (ofDeclarations (limits.take 1 ++ limits.drop 3)).constraints =
        (ofDeclarations limits).constraints ∧
      (ofDeclarations (limits.take 1 ++ limits.drop 3)).covers "pool.min" = true := by
  have hvalid : (limits.take 1 ++ limits.drop 3).filter (·.Valid) = limits.filter (·.Valid) := rfl
  obtain ⟨-, hrun, hothers⟩ := ofDeclarations_accounts limits
  obtain ⟨hconstraints, hcovers, -⟩ := hothers _ hvalid
  refine ⟨hvalid, ?_, hconstraints, ?_⟩
  · rw [hrun]
    rfl
  · rw [hcovers]
    rfl

end Specification

end Conform
