import Conform.Proofs.Placeholder.Resolution

namespace Conform.Placeholder

/-- A name that a placeholder of a document has and the document itself has not. -/
def Foreign (fragment : Config) (name : String) : Prop :=
  name ∉ fragment.keys ∧
    ∃ key value fallback?, fragment.get? key = some value ∧ Refers value name fallback?

/-- Two surroundings that a document cannot tell apart. -/
def AgreeFor (fragment context context' : Config) : Prop :=
  ∀ name, Foreign fragment name → context.get? name = context'.get? name

variable {fragment context context' : Config} {origin name : String} {stack : List String}
  {fallback? : Option (List Char)}

theorem lookup_congr (h : AgreeFor fragment context context')
    (hn : name ∉ fragment.keys → context.get? name = context'.get? name) :
    lookup fragment context origin stack name fallback? =
      lookup fragment context' origin stack name fallback? := by
  induction stack, name using lookup_induction fragment generalizing fallback? with
  | step stack name ih =>
    by_cases hs : name ∈ stack
    · rw [lookup_of_mem hs, lookup_of_mem hs]
    cases hf : fragment.get? name with
    | none =>
      rw [lookup_absent hs hf, lookup_absent hs hf, outside?, outside?,
        hn (Store.get?_eq_none_iff.1 hf)]
    | some value =>
      rcases value.text_or_not with ⟨t, rfl⟩ | hv
      · rw [lookup_text hs hf, lookup_text hs hf]
        apply expand_congr
        intro next fallback?' hp
        apply ih t next fallback?' hs hf hp
        intro hnext
        exact h next ⟨hnext, name, .text t, fallback?', hf, .text (scans_pieces _) hp⟩
      · rw [lookup_value hs hf hv, lookup_value hs hf hv]

/-- Success, failure and every text are the same in surroundings that agree for the document. -/
theorem resolve_congr (h : AgreeFor fragment context context') :
    resolve fragment context = resolve fragment context' := by
  rw [resolve_eq, resolve_eq, resolveEntries_eq_mapM, resolveEntries_eq_mapM]
  congr 1
  apply mapM_congr
  rintro ⟨key, value⟩ he
  have hk : fragment.get? key = some value := Store.get?_eq_some_iff.2 he
  congr 1
  apply resolveValue_congr
  intro n f hr
  exact lookup_congr h fun hn => h n ⟨hn, key, value, f, hk, hr⟩

end Conform.Placeholder
