import Conform.Proofs.Load.Fold
import Conform.Proofs.Load.Schedule
import Conform.Proofs.Specification.Declaration
import Conform.Proofs.Traversal
import Conform.Proofs.Validation.Judgement
import Conform.Run

namespace Conform

namespace Declaration

variable {d : Declaration} {finding : Finding}

theorem kind_of_finding? (h : d.finding? = some finding) : finding.kind = .authoring := by
  cases finding?_eq_some_iff.1 h with
  | unknownRule => rfl
  | invalidPattern => rfl

end Declaration

namespace Report

/-- A report is made of what the sources came to, what the declarations came to, what there is to
find about each constraint, and what there is to find about the keys. No constraint is for a key
twice. -/
structure IsMadeOf (report : Report) (strict : Bool) (base : Config)
    (made : List (Except Finding Config)) (declarations : List Declaration) : Prop where
  config_eq : report.config = (Loader.fragments made).foldl Store.merge base
  nodup_targetKeys : ∀ c ∈ declarations.filterMap Declaration.constraint?,
    (c.targetKeys report.config).Nodup
  findings_eq : ∃ judged uncovered,
    report.findings =
      Loader.failures made ++ declarations.filterMap Declaration.finding? ++
        judged.flatten ++ uncovered ∧
    List.Forall₂ (Constraint.Judged report.config)
      (declarations.filterMap Declaration.constraint?) judged ∧
    Validation.Uncovered strict report.config
      (declarations.filterMap Declaration.constraint?) uncovered

/-- The kinds of the findings follow the stages of a run, with one finding of the last stage at
most. -/
def InStages (report : Report) : Prop :=
  ∃ loads authoring judged uncovered : List Finding,
    report.findings = loads ++ authoring ++ judged ++ uncovered ∧
    (∀ finding ∈ loads, finding.kind = .load) ∧
    (∀ finding ∈ authoring, finding.kind = .authoring) ∧
    (∀ finding ∈ judged, finding.kind = .misconfiguration ∨ finding.kind = .violation) ∧
    (∀ finding ∈ uncovered, finding.kind = .coverage) ∧
    uncovered.length ≤ 1

variable {report : Report} {strict : Bool} {base : Config} {made : List (Except Finding Config)}
  {declarations : List Declaration}

theorem IsMadeOf.inStages (h : report.IsMadeOf strict base made declarations)
    (hmade : ∀ finding ∈ Loader.failures made, finding.kind = .load) : report.InStages := by
  obtain ⟨judged, uncovered, hfindings, hjudged, huncovered⟩ := h.findings_eq
  refine ⟨Loader.failures made, declarations.filterMap Declaration.finding?, judged.flatten,
    uncovered, hfindings, hmade, ?_, ?_, fun _ hf => huncovered.kind hf, huncovered.length_le⟩
  · intro finding hf
    obtain ⟨d, -, hd⟩ := List.mem_filterMap.1 hf
    exact Declaration.kind_of_finding? hd
  · intro finding hf
    obtain ⟨findings, hmem, hf⟩ := List.mem_flatten.1 hf
    obtain ⟨c, -, hc⟩ := forall₂_exists_of_mem hjudged.flip hmem
    exact hc.kind hf

end Report

namespace Run

variable {loader : Loader} {validation : Validation} {profile : Option String} {files : FileTree}

theorem finish_isMadeOf (parts : List (List Declaration)) (made : List (Except Finding Config)) :
    ((⟨loader, parts.map .ofDeclarations, validation, profile⟩ : Run).finish
      (made.foldl Loader.step ⟨loader.base, []⟩)).IsMadeOf validation.strict loader.base made
        parts.flatten := by
  rw [Loader.foldl_step_eq, List.nil_append]
  refine ⟨rfl, fun c _ => c.nodup_targetKeys _, ?_⟩
  let config := (Loader.fragments made).foldl Store.merge loader.base
  let spec := Specification.ofDeclarations parts.flatten
  refine ⟨spec.constraints.map (Constraint.evaluate · config),
    if validation.strict then Validation.coverage config spec else [], ?_, ?_, ?_⟩
  · rw [finish, Validation.run_eq, Specification.aggregate_ofDeclarations, List.append_assoc,
      List.append_assoc, List.append_assoc, ← List.flatMap_def]
    rfl
  · exact List.forall₂_map_right_iff.2
      (List.forall₂_same.2 fun c _ => Constraint.judged_evaluate config c)
  · exact Validation.uncovered_coverage validation.strict config spec

theorem finish_strict (run : Run) (outcome : LoadOutcome) :
    (run.withStrict true).finish outcome =
      ⟨outcome.config, ((run.withStrict false).finish outcome).findings ++
        Validation.coverage outcome.config (.aggregate run.specifications)⟩ := by
  rw [finish, finish, Validation.run_eq, Validation.run_eq]
  simp [withStrict, Validation.withStrict]

/-- Every finding of a run has its cause in a source, a declaration, a constraint or a key, and
every cause has its finding. The findings stand in the order of the stages, and asking for a
constraint for every key does no more than to add a finding at the end. -/
theorem report_isMadeOf (loader : Loader) (validation : Validation) (profile : Option String)
    (parts : List (List Declaration)) (files : FileTree) :
    let run : Run := ⟨loader, parts.map .ofDeclarations, validation, profile⟩
    (∃ made, Loader.Converts loader.registry files loader.base loader.sources made ∧
      (run.execute files).IsMadeOf validation.strict loader.base made parts.flatten) ∧
    (run.executeConcurrent files).IsMadeOf validation.strict loader.base
      (loader.sources.map (Loader.loadSource loader.registry files loader.base)) parts.flatten ∧
    (run.execute files).InStages ∧ (run.executeConcurrent files).InStages ∧
    ∃ uncovered,
      (run.withStrict true).execute files =
        ⟨((run.withStrict false).execute files).config,
          ((run.withStrict false).execute files).findings ++ uncovered⟩ ∧
      Validation.Uncovered true ((run.withStrict false).execute files).config
        (parts.flatten.filterMap Declaration.constraint?) uncovered := by
  intro run
  have hsequential : (run.execute files).IsMadeOf validation.strict loader.base
      (Loader.results loader.registry files loader.base loader.sources) parts.flatten := by
    rw [execute, Loader.load_eq_foldl_results]
    exact finish_isMadeOf parts _
  have hconcurrent : (run.executeConcurrent files).IsMadeOf validation.strict loader.base
      (loader.sources.map (Loader.loadSource loader.registry files loader.base))
        parts.flatten := by
    rw [executeConcurrent, Loader.loadConcurrent_eq]
    exact finish_isMadeOf parts _
  refine ⟨⟨_, Loader.converts_results .., hsequential⟩, hconcurrent, hsequential.inStages ?_,
    hconcurrent.inStages ?_, ?_⟩
  · intro finding hf
    obtain ⟨source, -, context, hload⟩ := Loader.exists_of_mem_results (Loader.mem_failures.1 hf)
    exact (Loader.error_of_loadSource hload).1
  · intro finding hf
    obtain ⟨source, -, hload⟩ := List.mem_map.1 (Loader.mem_failures.1 hf)
    exact (Loader.error_of_loadSource hload).1
  · refine ⟨_, finish_strict run (run.loader.load files), ?_⟩
    rw [Specification.aggregate_ofDeclarations]
    exact Validation.uncovered_coverage true _ (.ofDeclarations parts.flatten)

end Run

end Conform
