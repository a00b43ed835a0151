import Conform.Load
import Conform.Proofs.Store.Writes
import Mathlib.Data.List.Induction

namespace Conform.Loader

variable {registry : Registry} {files : FileTree} {context : Config} {sources : List Source}
  {made : List (Except Finding Config)}

def extend (context : Config) : Except Finding Config → Config
  | .ok fragment => context.merge fragment
  | .error _ => context

/-- What each source comes to, one after another. -/
def results (registry : Registry) (files : FileTree) :
    Config → List Source → List (Except Finding Config)
  | _, [] => []
  | context, source :: rest =>
    loadSource registry files context source ::
      results registry files (extend context (loadSource registry files context source)) rest

theorem step_config (outcome : LoadOutcome) (result : Except Finding Config) :
    (step outcome result).config = extend outcome.config result := by
  cases result <;> rfl

theorem foldl_step_results (outcome : LoadOutcome) (sources : List Source) :
    sources.foldl
        (fun outcome source => step outcome (loadSource registry files outcome.config source))
        outcome =
      (results registry files outcome.config sources).foldl step outcome := by
  induction sources generalizing outcome with
  | nil => rfl
  | cons source rest ih =>
    rw [List.foldl_cons, ih, step_config, results, List.foldl_cons]

theorem load_eq_foldl_results (l : Loader) (files : FileTree) :
    l.load files = (results l.registry files l.base l.sources).foldl step ⟨l.base, []⟩ :=
  foldl_step_results ⟨l.base, []⟩ l.sources

theorem results_append (before after : List Source) :
    results registry files context (before ++ after) =
      results registry files context before ++
        results registry files ((results registry files context before).foldl extend context)
          after := by
  induction before generalizing context with
  | nil => rfl
  | cons source rest ih =>
    rw [List.cons_append, results, results, ih]
    rfl

theorem exists_of_mem_results {result : Except Finding Config}
    (h : result ∈ results registry files context sources) :
    ∃ source ∈ sources, ∃ beside, loadSource registry files beside source = result := by
  induction sources generalizing context with
  | nil => cases h
  | cons source rest ih =>
    rw [results, List.mem_cons] at h
    rcases h with rfl | h
    · exact ⟨source, List.mem_cons_self, context, rfl⟩
    · obtain ⟨other, hm, beside, hother⟩ := ih h
      exact ⟨other, List.mem_cons_of_mem _ hm, beside, hother⟩

/-- Sources that come to the same beside the base and beside the sources before them come to what
they come to beside the base alone. -/
theorem results_eq_map
    (h : ∀ before source after, sources = before ++ source :: after →
      loadSource registry files ((results registry files context before).foldl extend context)
          source =
        loadSource registry files context source) :
    results registry files context sources = sources.map (loadSource registry files context) := by
  induction sources using List.reverseRecOn with
  | nil => rfl
  | append_singleton before source ih =>
    have hbefore : results registry files context before =
        before.map (loadSource registry files context) := by
      apply ih
      rintro first next last rfl
      apply h first next (last ++ [source])
      rw [List.append_assoc, List.cons_append]
    have hsource := h before source [] rfl
    rw [results_append, List.map_append, hbefore, results, results, ← hbefore, hsource]
    rfl

/-- A key that no fragment has keeps the value that it had before. -/
theorem get?_foldl_extend {name : String}
    (h : ∀ fragment, .ok fragment ∈ made → name ∉ fragment.keys) (context : Config) :
    (made.foldl extend context).get? name = context.get? name := by
  induction made generalizing context with
  | nil => rfl
  | cons result rest ih =>
    have hrest : ∀ fragment, .ok fragment ∈ rest → name ∉ fragment.keys :=
      fun fragment hm => h fragment (List.mem_cons_of_mem _ hm)
    rw [List.foldl_cons, ih hrest]
    cases result with
    | error finding => rfl
    | ok fragment => exact Store.get?_merge_of_not_mem (h fragment List.mem_cons_self) context

end Conform.Loader
