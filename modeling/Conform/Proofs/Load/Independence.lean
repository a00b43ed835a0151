import Conform.Proofs.Load.Results
import Conform.Proofs.Placeholder.Context

namespace Conform

/-- The configuration of a source with its placeholders as they are written. -/
def Source.fragment? (formats : List Format) (files : FileTree) (source : Source) :
    Option Config := do
  let format ← formats.find? fun format => Factory.hasExtension format.name source.path
  (format.fragment files source.path source.profile).toOption

namespace Loader

variable {formats : List Format} {files : FileTree} {context context' : Config} {source : Source}
  {l : Loader}

/-- No placeholder of a source has the name of a key that a source before it was loaded with, unless
the source has that key itself. -/
def Independent (formats : List Format) (files : FileTree) (l : Loader) : Prop :=
  ∀ before source after fragment, l.sources = before ++ source :: after →
    source.fragment? formats files = some fragment →
    ∀ name, Placeholder.Foreign fragment name →
      ∀ loaded, .ok loaded ∈ results l.registry files l.base before → name ∉ loaded.keys

theorem loadSource_none
    (hf : formats.find? (fun format => Factory.hasExtension format.name source.path) = none) :
    loadSource (formats.map Factory.ofFormat) files context source =
      .error (.noFactory source.path) := by
  have hfind : (formats.map Factory.ofFormat).find? (·.supports source.path) = none := by
    rw [List.find?_map]
    exact congrArg (Option.map Factory.ofFormat) hf
  rw [loadSource, Registry.resolve, hfind]
  rfl

theorem loadSource_some {format : Format}
    (hf : formats.find? (fun format => Factory.hasExtension format.name source.path) =
      some format) :
    loadSource (formats.map Factory.ofFormat) files context source =
      (Factory.ofFormat format).convert files context source := by
  have hfind : (formats.map Factory.ofFormat).find? (·.supports source.path) =
      some (.ofFormat format) := by
    rw [List.find?_map]
    exact congrArg (Option.map Factory.ofFormat) hf
  rw [loadSource, Registry.resolve, hfind]
  rfl

theorem fragment?_some {format : Format}
    (hf : formats.find? (fun format => Factory.hasExtension format.name source.path) =
      some format) :
    source.fragment? formats files =
      (format.fragment files source.path source.profile).toOption := by
  rw [Source.fragment?, hf]
  rfl

theorem convert_error {format : Format} {failure : LoadFailure}
    (h : format.fragment files source.path source.profile = .error failure) :
    (Factory.ofFormat format).convert files context source =
      .error (.loadFailed source.path format.name (.load failure)) := by
  simp only [Factory.convert, Factory.ofFormat, h, bind, Except.bind]

theorem convert_ok {format : Format} {fragment : Config}
    (h : format.fragment files source.path source.profile = .ok fragment) :
    (Factory.ofFormat format).convert files context source =
      (Placeholder.resolve fragment context).mapError fun failure =>
        .loadFailed source.path format.name (.load failure) := by
  simp only [Factory.convert, Factory.ofFormat, h, bind, Except.bind]
  cases Placeholder.resolve fragment context <;> rfl

/-- What a source comes to depends on its surroundings at its foreign names alone, be it a
configuration or a finding. -/
theorem loadSource_congr
    (h : ∀ fragment, source.fragment? formats files = some fragment →
      Placeholder.AgreeFor fragment context context') :
    loadSource (formats.map Factory.ofFormat) files context source =
      loadSource (formats.map Factory.ofFormat) files context' source := by
  cases hf : formats.find? fun format => Factory.hasExtension format.name source.path with
  | none => rw [loadSource_none hf, loadSource_none hf]
  | some format =>
    rw [loadSource_some hf, loadSource_some hf]
    rw [fragment?_some hf] at h
    cases hfragment : format.fragment files source.path source.profile with
    | error failure => rw [convert_error hfragment, convert_error hfragment]
    | ok fragment =>
      rw [hfragment] at h
      have hagree : Placeholder.AgreeFor fragment context context' := h fragment rfl
      rw [convert_ok hfragment, convert_ok hfragment, Placeholder.resolve_congr hagree]

theorem resolve_of_loadSource {loaded : Config}
    (h : loadSource (formats.map Factory.ofFormat) files context source = .ok loaded) :
    ∃ fragment, source.fragment? formats files = some fragment ∧
      Placeholder.resolve fragment context = .ok loaded := by
  cases hf : formats.find? fun format => Factory.hasExtension format.name source.path with
  | none =>
    rw [loadSource_none hf] at h
    cases h
  | some format =>
    rw [loadSource_some hf] at h
    rw [fragment?_some hf]
    cases hfragment : format.fragment files source.path source.profile with
    | error failure =>
      rw [convert_error hfragment] at h
      cases h
    | ok fragment =>
      rw [convert_ok hfragment] at h
      refine ⟨fragment, rfl, ?_⟩
      cases hresolve : Placeholder.resolve fragment context with
      | error failure =>
        rw [hresolve] at h
        cases h
      | ok loaded' =>
        rw [hresolve] at h
        exact congrArg Except.ok (Except.ok.inj h)

/-- Independence can be read off the files, before anything is loaded. -/
theorem independent_of_fragments (hr : l.registry = formats.map Factory.ofFormat)
    (h : ∀ before source after fragment, l.sources = before ++ source :: after →
      source.fragment? formats files = some fragment →
      ∀ name, Placeholder.Foreign fragment name →
        ∀ other ∈ before, ∀ fragment', other.fragment? formats files = some fragment' →
          name ∉ fragment'.keys) :
    Independent formats files l := by
  intro before source after fragment hsources hfragment name hname loaded hloaded
  rw [hr] at hloaded
  obtain ⟨other, hother, context, hload⟩ := exists_of_mem_results hloaded
  obtain ⟨fragment', hfragment', hresolve⟩ := resolve_of_loadSource hload
  rw [Placeholder.keys_of_resolve hresolve]
  exact h before source after fragment hsources hfragment name hname other hother fragment'
    hfragment'

theorem results_of_independent (hr : l.registry = formats.map Factory.ofFormat)
    (hi : Independent formats files l) :
    results l.registry files l.base l.sources =
      l.sources.map (loadSource l.registry files l.base) := by
  apply results_eq_map
  intro before source after hsources
  rw [hr]
  apply loadSource_congr
  intro fragment hfragment name hname
  rw [← hr]
  exact get?_foldl_extend (hi before source after fragment hsources hfragment name hname) l.base

end Loader

end Conform
