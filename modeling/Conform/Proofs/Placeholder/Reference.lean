import Conform.Proofs.Placeholder.Substitution

namespace Conform.Placeholder

/-- A name that comes back as it is from a placeholder without a text in its place. -/
structure IsBare (name : String) : Prop where
  trimmed : Text.trim name.toList = name.toList
  undivided : ':' ∉ name.toList
  unended : '\x7d' ∉ name.toList

/-- The text that is nothing but a placeholder. -/
def placeholder (name : String) : String :=
  String.ofList (start ++ (name.toList ++ ['\x7d']))

variable {fragment context resolved : Config} {key name : String} {value : Value}
  {text : List Char}

theorem IsBare.scans (h : IsBare name) :
    Scans (placeholder name).toList [.literal [], .reference name none, .literal []] := by
  have hname : Names name.toList name none := by
    have hplain := Names.plain h.undivided
    rwa [h.trimmed, String.ofList_toList] at hplain
  have hempty : ¬ start <:+: [] := not_start_infix_of_length_lt (by simp)
  rw [placeholder, String.toList_ofList]
  exact .placeholder hempty h.unended hname (.literal hempty)

theorem fills_reference {means : String → Option (List Char) → List Char → Prop}
    (h : Fills means [.literal [], .reference name none, .literal []] text) :
    means name none text := by
  cases h with
  | literal h =>
    cases h with
    | reference hm h =>
      cases h with
      | literal h =>
        cases h
        simpa using hm

theorem get?_placeholder (h : resolve fragment context = .ok resolved) (hname : IsBare name)
    (hkey : fragment.get? key = some (.text (placeholder name))) :
    ∃ text, resolved.get? key = some (.text (String.ofList text)) ∧
      Means fragment context resolved name none text := by
  obtain ⟨value', hresolved, hvalue⟩ := get?_of_resolve h hkey
  rw [resolveValue_text, hname.scans.pieces_eq] at hvalue
  obtain ⟨text, hexpand, rfl⟩ := map_eq_ok hvalue
  exact ⟨text, hresolved, means_of_lookup h (fills_reference (fills_of_expand hexpand))⟩

/-- A reference to a text comes to the resolved text, and any other to the text of the value as it is
written. -/
theorem get?_reference (h : resolve fragment context = .ok resolved) (hname : IsBare name)
    (hkey : fragment.get? key = some (.text (placeholder name)))
    (hvalue : fragment.get? name = some value) :
    (∃ filled, resolved.get? name = some (.text filled) ∧
      resolved.get? key = some (.text filled)) ∨
    value.isText = false ∧ resolved.get? key = some (.text value.plainText) := by
  obtain ⟨text, hresolved, hmeans⟩ := get?_placeholder h hname hkey
  cases hmeans with
  | text hf hr =>
    rw [String.ofList_toList] at hresolved
    exact .inl ⟨_, hr, hresolved⟩
  | value hf hv =>
    cases hvalue.symm.trans hf
    rw [String.ofList_toList] at hresolved
    exact .inr ⟨hv, hresolved⟩
  | context hf => cases hvalue.symm.trans hf

/-- A reference comes to the text of what the entry that it names is resolved to, unless that entry is
a list whose text resolving changes: the reference then keeps the text of the list as it is written.
Nothing changes in a list without placeholders. -/
theorem reference_final_iff (h : resolve fragment context = .ok resolved) (hname : IsBare name)
    (hkey : fragment.get? key = some (.text (placeholder name)))
    (hvalue : fragment.get? name = some value) :
    ∃ final, resolved.get? name = some final ∧
      (resolved.get? key = some (.text final.plainText) ↔
        value.list? = none ∨ final.plainText = value.plainText) ∧
      (value.list? ≠ none → resolved.get? key = some (.text value.plainText)) ∧
      ((∀ text, Holds value text → ¬ HasPlaceholder text.toList) → final = value) := by
  obtain ⟨final, hfinal, hresolve⟩ := get?_of_resolve h hvalue
  have hsame (hnone : ∀ text, Holds value text → ¬ HasPlaceholder text.toList) : final = value := by
    rw [resolveValue_of_not_hasPlaceholder hnone] at hresolve
    exact (Except.ok.inj hresolve).symm
  refine ⟨final, hfinal, ?_⟩
  rcases get?_reference h hname hkey hvalue with ⟨filled, hfilled, htext⟩ | ⟨hv, htext⟩
  · cases hfinal.symm.trans hfilled
    have hlist : value.list? = none := by
      cases value with
      | list items =>
        rw [resolveValue_list] at hresolve
        obtain ⟨_, -, heq⟩ := map_eq_ok hresolve
        cases heq
      | _ => rfl
    exact ⟨iff_of_true htext (.inl hlist), fun hne => absurd hlist hne, hsame⟩
  · refine ⟨?_, fun _ => htext, hsame⟩
    rw [htext, Option.some_inj, Value.text.injEq]
    cases hlist : value.list? with
    | none =>
      rw [resolveValue_other hv hlist] at hresolve
      cases hresolve
      simp
    | some items => simp [eq_comm]

/-- A reference to a list with placeholders, and a reference to that reference. -/
def listing : Config := .ofList [("host", .text "db"),
  ("hosts", .list [.text "$\x7bhost\x7d-1", .list [.text "$\x7bhost\x7d-2", .flag true]]),
  ("all", .text "$\x7bhosts\x7d"), ("again", .text "$\x7ball\x7d")]

def listed : Config := .ofList [("host", .text "db"),
  ("hosts", .list [.text "db-1", .list [.text "db-2", .flag true]]),
  ("all", .text "$\x7bhost\x7d-1,$\x7bhost\x7d-2,true"),
  ("again", .text "$\x7bhost\x7d-1,$\x7bhost\x7d-2,true")]

theorem reference_final_again :
    resolve listing .empty = .ok listed ∧ IsBare "all" ∧
      listing.get? "again" = some (.text (placeholder "all")) ∧
      listing.get? "all" = some (.text (placeholder "hosts")) ∧
      ∃ final, listed.get? "all" = some final ∧
        listed.get? "again" = some (.text final.plainText) := by
  have hresolve : resolve listing .empty = .ok listed := by cbv
  have hname : IsBare "all" := ⟨by decide, by decide, by decide⟩
  have hkey : listing.get? "again" = some (.text (placeholder "all")) := rfl
  have hvalue : listing.get? "all" = some (.text (placeholder "hosts")) := rfl
  obtain ⟨final, hfinal, hiff, -⟩ := reference_final_iff hresolve hname hkey hvalue
  exact ⟨hresolve, hname, hkey, hvalue, final, hfinal, hiff.2 (.inl rfl)⟩

theorem reference_differs_all :
    resolve listing .empty = .ok listed ∧ IsBare "hosts" ∧
      listing.get? "all" = some (.text (placeholder "hosts")) ∧
      (∃ final, listed.get? "hosts" = some final ∧ final.plainText = "db-1,db-2,true" ∧
        listed.get? "all" ≠ some (.text final.plainText)) ∧
      listed.get? "all" = some (.text "$\x7bhost\x7d-1,$\x7bhost\x7d-2,true") := by
  refine ⟨by cbv, ⟨by decide, by decide, by decide⟩, rfl, ⟨_, rfl, rfl, ?_⟩, rfl⟩
  intro h
  have htext := Value.text.inj (Option.some.inj h)
  exact absurd htext (by decide)

end Conform.Placeholder
