import Conform.Proofs.Load.Results

namespace Conform.Loader

def fragments (made : List (Except Finding Config)) : List Config :=
  made.filterMap Except.toOption

def failures (made : List (Except Finding Config)) : List Finding :=
  made.filterMap fun
    | .ok _ => none
    | .error finding => some finding

/-- The list says for each source what it comes to beside the base with the fragments before it
merged over it. -/
structure Converts (registry : Registry) (files : FileTree) (base : Config) (sources : List Source)
    (made : List (Except Finding Config)) : Prop where
  length_eq : made.length = sources.length
  getElem?_eq : ∀ i source, sources[i]? = some source →
    made[i]? = some
      (loadSource registry files ((fragments (made.take i)).foldl Store.merge base) source)

variable {registry : Registry} {files : FileTree} {context : Config} {source : Source}
  {sources : List Source} {finding : Finding}

theorem fragments_append (made made' : List (Except Finding Config)) :
    fragments (made ++ made') = fragments made ++ fragments made' :=
  List.filterMap_append

theorem failures_append (made made' : List (Except Finding Config)) :
    failures (made ++ made') = failures made ++ failures made' :=
  List.filterMap_append

theorem mem_failures {made : List (Except Finding Config)} :
    finding ∈ failures made ↔ .error finding ∈ made := by
  rw [failures, List.mem_filterMap]
  constructor
  · rintro ⟨result, hresult, hsome⟩
    cases result with
    | ok fragment => cases hsome
    | error finding' =>
      cases hsome
      exact hresult
  · intro h
    exact ⟨.error finding, h, rfl⟩

theorem foldl_extend_eq (made : List (Except Finding Config)) (context : Config) :
    made.foldl extend context = (fragments made).foldl Store.merge context := by
  induction made generalizing context with
  | nil => rfl
  | cons result rest ih =>
    rw [List.foldl_cons, ih]
    cases result <;> rfl

theorem foldl_step_eq (made : List (Except Finding Config)) (outcome : LoadOutcome) :
    made.foldl step outcome =
      ⟨(fragments made).foldl Store.merge outcome.config, outcome.findings ++ failures made⟩ := by
  induction made generalizing outcome with
  | nil => simp [fragments, failures]
  | cons result rest ih =>
    rw [List.foldl_cons, ih]
    cases result with
    | ok fragment => rfl
    | error finding =>
      have hfailures : failures (.error finding :: rest) = finding :: failures rest := rfl
      rw [hfailures, step, List.append_assoc]
      rfl

/-- The outcome by what each source came to. -/
theorem load_eq (l : Loader) (files : FileTree) :
    l.load files =
      ⟨(fragments (results l.registry files l.base l.sources)).foldl Store.merge l.base,
        failures (results l.registry files l.base l.sources)⟩ := by
  rw [load_eq_foldl_results, foldl_step_eq, List.nil_append]

theorem length_results :
    (results registry files context sources).length = sources.length := by
  induction sources generalizing context with
  | nil => rfl
  | cons source rest ih => rw [results, List.length_cons, ih, List.length_cons]

theorem getElem?_results {i : Nat} (h : sources[i]? = some source) :
    (results registry files context sources)[i]? =
      some (loadSource registry files
        (((results registry files context sources).take i).foldl extend context) source) := by
  induction sources generalizing context i with
  | nil => cases h
  | cons first rest ih =>
    cases i with
    | zero =>
      rw [List.getElem?_cons_zero, Option.some.injEq] at h
      rw [results, h]
      rfl
    | succ i =>
      rw [List.getElem?_cons_succ] at h
      rw [results, List.getElem?_cons_succ, ih h]
      rfl

theorem converts_results (registry : Registry) (files : FileTree) (base : Config)
    (sources : List Source) :
    Converts registry files base sources (results registry files base sources) where
  length_eq := length_results
  getElem?_eq i source h := by rw [getElem?_results h, foldl_extend_eq]

theorem error_of_loadSource (h : loadSource registry files context source = .error finding) :
    finding.kind = .load ∧ finding.arguments.head? = some (.text source.path) := by
  rw [loadSource, Registry.resolve] at h
  split at h
  next factory _ =>
    change factory.convert files context source = .error finding at h
    rw [Factory.convert] at h
    split at h
    next => cases h
    next =>
      cases h
      exact ⟨rfl, rfl⟩
  next =>
    cases h
    exact ⟨rfl, rfl⟩

theorem load_append (registry : Registry) (files : FileTree) (base : Config)
    (first second : List Source) :
    let middle := load ⟨registry, base, first⟩ files
    let last := load ⟨registry, middle.config, second⟩ files
    load ⟨registry, base, first ++ second⟩ files =
      ⟨last.config, middle.findings ++ last.findings⟩ := by
  intro middle last
  simp only [middle, last, load_eq, results_append, fragments_append, failures_append,
    List.foldl_append, foldl_extend_eq]

theorem config_load (registry : Registry) (files : FileTree) (base : Config)
    (sources : List Source) :
    (load ⟨registry, base, sources⟩ files).config =
      (results registry files base sources).foldl extend base := by
  rw [load_eq, foldl_extend_eq]

/-- A source that does not convert leaves no trace but its finding. -/
theorem load_erase (registry : Registry) (files : FileTree) (base : Config)
    (before : List Source) (source : Source) (after : List Source) (finding : Finding)
    (hfails : loadSource registry files (load ⟨registry, base, before⟩ files).config source =
      .error finding) :
    ∃ later,
      (load ⟨registry, base, before ++ source :: after⟩ files).findings =
        (load ⟨registry, base, before⟩ files).findings ++ finding :: later ∧
      load ⟨registry, base, before ++ after⟩ files =
        ⟨(load ⟨registry, base, before ++ source :: after⟩ files).config,
          (load ⟨registry, base, before⟩ files).findings ++ later⟩ := by
  let context := (results registry files base before).foldl extend base
  rw [config_load] at hfails
  have hwith : results registry files base (before ++ source :: after) =
      results registry files base before ++
        .error finding :: results registry files context after := by
    rw [results_append, results, hfails]
    rfl
  have hwithout : results registry files base (before ++ after) =
      results registry files base before ++ results registry files context after :=
    results_append before after
  refine ⟨failures (results registry files context after), ?_, ?_⟩
  · rw [load_eq, load_eq, hwith, failures_append]
    rfl
  · rw [load_eq, load_eq, load_eq, hwith, hwithout, fragments_append, fragments_append,
      failures_append]
    rfl

/-- Loading merges the fragments of the sources that convert over the base, and has one finding for
each other source. So a source that does not convert can be left out, and loading can stop after any
source and go on from there. -/
theorem load_merges_fragments (registry : Registry) (files : FileTree) (base : Config)
    (sources : List Source) :
    let outcome := load ⟨registry, base, sources⟩ files
    (∃ made : List (Except Finding Config), Converts registry files base sources made ∧
      outcome.config = (fragments made).foldl Store.merge base ∧
      outcome.findings = failures made ∧
      ∀ (i : Nat) (source : Source) (finding : Finding), sources[i]? = some source →
        made[i]? = some (.error finding) →
        finding.kind = .load ∧ finding.arguments.head? = some (.text source.path)) ∧
    (∀ before source after finding, sources = before ++ source :: after →
      loadSource registry files (load ⟨registry, base, before⟩ files).config source =
        .error finding →
      ∃ later,
        outcome.findings = (load ⟨registry, base, before⟩ files).findings ++ finding :: later ∧
        load ⟨registry, base, before ++ after⟩ files =
          ⟨outcome.config, (load ⟨registry, base, before⟩ files).findings ++ later⟩) ∧
    ∀ first second, sources = first ++ second →
      let middle := load ⟨registry, base, first⟩ files
      let last := load ⟨registry, middle.config, second⟩ files
      outcome = ⟨last.config, middle.findings ++ last.findings⟩ := by
  have hload := load_eq ⟨registry, base, sources⟩ files
  refine ⟨⟨results registry files base sources, converts_results registry files base sources,
    congrArg LoadOutcome.config hload, congrArg LoadOutcome.findings hload, ?_⟩, ?_, ?_⟩
  · intro i source finding hsource hresult
    rw [getElem?_results hsource, Option.some.injEq] at hresult
    exact error_of_loadSource hresult
  · rintro before source after finding rfl hfails
    exact load_erase registry files base before source after finding hfails
  · rintro first second rfl
    exact load_append registry files base first second

end Conform.Loader
