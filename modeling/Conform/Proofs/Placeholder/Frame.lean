import Mathlib.Data.List.Permutation
import Conform.Proofs.Placeholder.Resolution

namespace Conform.Placeholder

/-- The second value is the first but for texts that have a placeholder with an end, in it or in the
lists that it is made of. -/
inductive Keeps : Value → Value → Prop
  | text {text text' : String} (h : ¬ HasPlaceholder text.toList → text' = text) :
      Keeps (.text text) (.text text')
  | list {items items' : List Value} (h : List.Forall₂ Keeps items items') :
      Keeps (.list items) (.list items')
  | other {value : Value} (ht : value.isText = false) (hl : value.list? = none) : Keeps value value

variable {fragment context resolved : Config} {key : String} {value value' : Value}

theorem keeps_of_resolveValue (h : resolveValue fragment context key value = .ok value') :
    Keeps value value' := by
  induction value using Value.text_induction generalizing value' with
  | text text =>
    have hkeep (hnone : ¬ HasPlaceholder text.toList) : value' = .text text := by
      have hplain : ∀ t, Holds (.text text) t → ¬ HasPlaceholder t.toList := by
        rintro _ ⟨⟩
        exact hnone
      exact Except.ok.inj (h.symm.trans (resolveValue_of_not_hasPlaceholder hplain))
    rw [resolveValue_text] at h
    obtain ⟨filled, -, rfl⟩ := map_eq_ok h
    exact .text fun hnone => Value.text.inj (hkeep hnone)
  | list items ih =>
    rw [resolveValue_list] at h
    obtain ⟨items', hitems, rfl⟩ := map_eq_ok h
    have hforall := mapM_ok_iff.1 hitems
    refine .list ?_
    clear h hitems
    induction hforall with
    | nil => exact .nil
    | cons hv _ ihf =>
      refine .cons (ih _ List.mem_cons_self hv) (ihf ?_)
      exact fun item hitem => ih item (List.mem_cons_of_mem _ hitem)
  | other value ht hl =>
    rw [resolveValue_other ht hl] at h
    cases h
    exact .other ht hl

theorem resolve_of_not_hasStart (h : ∀ e ∈ fragment.entries, hasStart e.2 = false) :
    resolve fragment context = .ok fragment := by
  apply resolve_of_not_hasPlaceholder
  intro key value text hkey htext
  have hstart := h (key, value) (Store.get?_eq_some_iff.1 hkey)
  exact not_hasPlaceholder_of_not_start (htext.not_start_infix hstart)

/-- A resolved document has the keys of the document in their order, and under each key the value
but for its texts with placeholders. It is what going through all entries gives, also for a document
without any start of a placeholder, which stays as it is. -/
theorem resolve_keeps (h : resolve fragment context = .ok resolved) :
    resolved.keys = fragment.keys ∧
    (∀ key value, fragment.get? key = some value →
      ∃ value', resolved.get? key = some value' ∧ Keeps value value') ∧
    (resolveEntries fragment context fragment.entries).map Store.ofList = .ok resolved ∧
    ((∀ e ∈ fragment.entries, hasStart e.2 = false) → resolved = fragment) := by
  refine ⟨keys_of_resolve h, ?_, ?_, ?_⟩
  · intro key value hkey
    obtain ⟨value', hresolved, hvalue⟩ := get?_of_resolve h hkey
    exact ⟨value', hresolved, keeps_of_resolveValue hvalue⟩
  · rw [← resolve_eq, h]
  · intro hnone
    rw [resolve_of_not_hasStart hnone] at h
    exact (Except.ok.inj h).symm

/-- A document with marks that start or end no placeholder, in a text, in lists and in a map. -/
def marked : Config := .ofList [("price", .text "$5 \x7bnet\x7d $\x7b"),
  ("rows", .list [.text "$\x7bprice\x7d", .list [.flag true, .text "$\x7dx"],
    .map [("note", .text "$\x7bgone\x7d")]])]

def unmarked : Config := .ofList [("price", .text "$5 \x7bnet\x7d $\x7b"),
  ("rows", .list [.text "$5 \x7bnet\x7d $\x7b", .list [.flag true, .text "$\x7dx"],
    .map [("note", .text "$\x7bgone\x7d")]])]

theorem resolve_keeps_marked :
    resolve marked .empty = .ok unmarked ∧ unmarked.keys = ["price", "rows"] ∧
      ∃ rows, unmarked.get? "rows" = some rows ∧
        Keeps (.list [.text "$\x7bprice\x7d", .list [.flag true, .text "$\x7dx"],
          .map [("note", .text "$\x7bgone\x7d")]]) rows := by
  have hresolve : resolve marked .empty = .ok unmarked := by cbv
  obtain ⟨hkeys, hvalues, -⟩ := resolve_keeps hresolve
  exact ⟨hresolve, hkeys, hvalues "rows" _ rfl⟩

end Conform.Placeholder
