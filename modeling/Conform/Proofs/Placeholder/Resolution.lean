import Conform.Proofs.Placeholder.Expansion
import Conform.Proofs.Traversal
import Conform.Proofs.Value.Parts

namespace Conform

theorem Value.text_induction {motive : Value → Prop} (text : ∀ text, motive (.text text))
    (list : ∀ items, (∀ item ∈ items, motive item) → motive (.list items))
    (other : ∀ value, value.isText = false → value.list? = none → motive value)
    (value : Value) : motive value := by
  induction value using Value.induction with
  | leaf value hlist hmap =>
    cases value with
    | text s => exact text s
    | list items => exact absurd rfl hlist
    | _ => exact other _ rfl rfl
  | list items ih => exact list items ih
  | map entries ih => exact other _ rfl rfl

namespace Placeholder

/-- A value with the placeholders in its text, or in the texts of a list, filled. -/
inductive Resolved (means : String → Option (List Char) → List Char → Prop) : Value → Value → Prop
  | text {text : String} {ps : List Piece} {filled : List Char} (hs : Scans text.toList ps)
      (hf : Fills means ps filled) : Resolved means (.text text) (.text (String.ofList filled))
  | list {items items' : List Value} (h : List.Forall₂ (Resolved means) items items') :
      Resolved means (.list items) (.list items')
  | other {value : Value} (ht : value.isText = false) (hl : value.list? = none) :
      Resolved means value value

/-- A value is a text, or a list that holds it, however deep. -/
inductive Holds : Value → String → Prop
  | text {text : String} : Holds (.text text) text
  | list {items : List Value} {item : Value} {text : String} (hi : item ∈ items)
      (h : Holds item text) : Holds (.list items) text

variable {fragment context context' resolved : Config} {key name : String} {value value' : Value}
  {fallback? : Option (List Char)} {failure : LoadFailure}

theorem resolveItems_eq_mapM (items : List Value) :
    resolveItems fragment context key items = items.mapM (resolveValue fragment context key) := by
  induction items with
  | nil => rfl
  | cons item rest ih => rw [resolveItems, ih, List.mapM_cons]

theorem resolveEntries_eq_mapM (entries : List (String × Value)) :
    resolveEntries fragment context entries =
      entries.mapM fun e => (resolveValue fragment context e.1 e.2).map (e.1, ·) := by
  induction entries with
  | nil => rfl
  | cons e rest ih =>
    rw [resolveEntries, ih, List.mapM_cons]
    cases resolveValue fragment context e.1 e.2 <;> rfl

theorem resolveItems_cons (item : Value) (rest : List Value) :
    resolveItems fragment context key (item :: rest) =
      (resolveValue fragment context key item).bind fun item =>
        (resolveItems fragment context key rest).map (item :: ·) := by
  rw [resolveItems]
  cases resolveValue fragment context key item with
  | error failure => rfl
  | ok item => cases resolveItems fragment context key rest <;> rfl

theorem resolveEntries_cons (key : String) (value : Value) (rest : List (String × Value)) :
    resolveEntries fragment context ((key, value) :: rest) =
      (resolveValue fragment context key value).bind fun value =>
        (resolveEntries fragment context rest).map ((key, value) :: ·) := by
  rw [resolveEntries]
  cases resolveValue fragment context key value with
  | error failure => rfl
  | ok value => cases resolveEntries fragment context rest <;> rfl

theorem someHasStart_eq_any (items : List Value) : someHasStart items = items.any hasStart := by
  induction items with
  | nil => rfl
  | cons item rest ih => rw [someHasStart, ih, List.any_cons]

theorem resolveValue_text (text : String) :
    resolveValue fragment context key (.text text) =
      (expand fragment context key [key] (pieces text.toList)).map (.text <| String.ofList ·) := by
  rw [resolveValue, resolveText]
  cases expand fragment context key [key] (pieces text.toList) <;> rfl

theorem resolveValue_list (items : List Value) :
    resolveValue fragment context key (.list items) =
      (items.mapM (resolveValue fragment context key)).map .list := by
  rw [resolveValue, resolveItems_eq_mapM]

theorem resolveValue_other (ht : value.isText = false) (hl : value.list? = none) :
    resolveValue fragment context key value = .ok value := by
  cases value with
  | text => cases ht
  | list => cases hl
  | _ => rfl

theorem resolved_of_resolveValue {means : String → Option (List Char) → List Char → Prop}
    (hm : ∀ name fallback? text,
      lookup fragment context key [key] name fallback? = .ok text → means name fallback? text)
    (h : resolveValue fragment context key value = .ok value') : Resolved means value value' := by
  induction value using Value.text_induction generalizing value' with
  | text text =>
    rw [resolveValue_text] at h
    obtain ⟨filled, he, rfl⟩ := map_eq_ok h
    exact .text (scans_pieces _) ((fills_of_expand he).imp fun n f t _ => hm n f t)
  | list items ih =>
    rw [resolveValue_list] at h
    obtain ⟨items', hi, rfl⟩ := map_eq_ok h
    have hf := mapM_ok_iff.1 hi
    refine .list ?_
    clear h hi
    induction hf with
    | nil => exact .nil
    | cons hv _ ihf =>
      exact .cons (ih _ List.mem_cons_self hv) (ihf fun i hi => ih i (List.mem_cons_of_mem _ hi))
  | other value ht hl =>
    rw [resolveValue_other ht hl] at h
    cases h
    exact .other ht hl

theorem lookup_of_resolveValue_error
    (h : resolveValue fragment context key value = .error failure) :
    ∃ name fallback?, Refers value name fallback? ∧
      lookup fragment context key [key] name fallback? = .error failure := by
  induction value using Value.text_induction with
  | text text =>
    rw [resolveValue_text, map_eq_error_iff] at h
    obtain ⟨n, f, hp, hl⟩ := lookup_of_expand_error h
    exact ⟨n, f, .text (scans_pieces _) hp, hl⟩
  | list items ih =>
    rw [resolveValue_list, map_eq_error_iff, mapM_error_iff] at h
    obtain ⟨before, item, after, rfl, hv, -⟩ := h
    have hi : item ∈ before ++ item :: after := by simp
    obtain ⟨n, f, hr, hl⟩ := ih item hi hv
    exact ⟨n, f, .list hi hr, hl⟩
  | other value ht hl =>
    rw [resolveValue_other ht hl] at h
    cases h

theorem resolveValue_error_of_lookup (hr : Refers value name fallback?)
    (hl : lookup fragment context key [key] name fallback? = .error failure) :
    ∃ failure', resolveValue fragment context key value = .error failure' := by
  induction hr with
  | text hs hp =>
    obtain ⟨e, he⟩ := expand_error_of_lookup (hs.pieces_eq ▸ hp) hl
    exact ⟨e, by rw [resolveValue_text, he]; rfl⟩
  | list hi _ ih =>
    obtain ⟨e, he⟩ := ih hl
    obtain ⟨e', he'⟩ := mapM_error_of_mem hi he
    exact ⟨e', by rw [resolveValue_list, he']; rfl⟩

theorem resolveValue_congr
    (h : ∀ name fallback?, Refers value name fallback? →
      lookup fragment context key [key] name fallback? =
        lookup fragment context' key [key] name fallback?) :
    resolveValue fragment context key value = resolveValue fragment context' key value := by
  induction value using Value.text_induction with
  | text text =>
    rw [resolveValue_text, resolveValue_text,
      expand_congr fun n f hp => h n f (.text (scans_pieces _) hp)]
  | list items ih =>
    rw [resolveValue_list, resolveValue_list,
      mapM_congr fun item hi => ih item hi fun n f hr => h n f (.list hi hr)]
  | other value ht hl => rw [resolveValue_other ht hl, resolveValue_other ht hl]

theorem resolveValue_of_not_hasPlaceholder
    (h : ∀ text, Holds value text → ¬ HasPlaceholder text.toList) :
    resolveValue fragment context key value = .ok value := by
  induction value using Value.text_induction with
  | text text =>
    rw [resolveValue_text, pieces_of_not_hasPlaceholder (h text .text), expand, expand]
    simp [Except.map]
  | list items ih =>
    have hi : items.mapM (resolveValue fragment context key) = .ok items := by
      rw [mapM_ok_iff, List.forall₂_same]
      exact fun item hi => ih item hi fun text ht => h text (.list hi ht)
    rw [resolveValue_list, hi]
    rfl
  | other value ht hl => exact resolveValue_other ht hl

theorem Holds.not_start_infix {text : String} (h : Holds value text)
    (hs : hasStart value = false) : ¬ start <:+: text.toList := by
  induction h with
  | text =>
    rw [← splitStart?_eq_none_iff]
    simpa [hasStart] using hs
  | list hi _ ih =>
    rw [hasStart, someHasStart_eq_any, List.any_eq_false] at hs
    exact ih (by simpa using hs _ hi)

theorem resolveEntries_of_not_hasPlaceholder {entries : List (String × Value)}
    (h : ∀ e ∈ entries, ∀ text, Holds e.2 text → ¬ HasPlaceholder text.toList) :
    resolveEntries fragment context entries = .ok entries := by
  rw [resolveEntries_eq_mapM, mapM_ok_iff, List.forall₂_same]
  intro e he
  rw [resolveValue_of_not_hasPlaceholder (h e he)]
  rfl

/-- The shortcut for documents without placeholders changes nothing. -/
theorem resolve_eq (fragment context : Config) :
    resolve fragment context =
      (resolveEntries fragment context fragment.entries).map Store.ofList := by
  rw [resolve]
  split
  · rfl
  next h =>
    rw [Bool.not_eq_true, List.any_eq_false] at h
    rw [resolveEntries_of_not_hasPlaceholder]
    · exact congrArg Except.ok (Store.ofList_entries fragment).symm
    · intro e he text ht
      exact not_hasPlaceholder_of_not_start (ht.not_start_infix (by simpa using h e he))

theorem resolve_of_not_hasPlaceholder
    (h : ∀ key value text, fragment.get? key = some value → Holds value text →
      ¬ HasPlaceholder text.toList) : resolve fragment context = .ok fragment := by
  rw [resolve_eq, resolveEntries_of_not_hasPlaceholder]
  · exact congrArg Except.ok (Store.ofList_entries fragment)
  · exact fun e he text => h e.1 e.2 text (Store.get?_eq_some_iff.2 he)

theorem keys_of_resolved {entries entries' : List (String × Value)}
    (h : List.Forall₂ (fun e e' => e'.1 = e.1 ∧ resolveValue fragment context e.1 e.2 = .ok e'.2)
      entries entries') : entries'.map Prod.fst = entries.map Prod.fst := by
  induction h with
  | nil => rfl
  | cons hv _ ih => rw [List.map_cons, List.map_cons, hv.1, ih]

theorem forall₂_of_resolveEntries {entries entries' : List (String × Value)}
    (h : resolveEntries fragment context entries = .ok entries') :
    List.Forall₂ (fun e e' => e'.1 = e.1 ∧ resolveValue fragment context e.1 e.2 = .ok e'.2)
      entries entries' := by
  rw [resolveEntries_eq_mapM, mapM_ok_iff] at h
  refine h.imp ?_
  intro e e' hv
  obtain ⟨v, hr, rfl⟩ := map_eq_ok hv
  exact ⟨rfl, hr⟩

theorem entries_of_resolve (h : resolve fragment context = .ok resolved) :
    List.Forall₂ (fun e e' => e'.1 = e.1 ∧ resolveValue fragment context e.1 e.2 = .ok e'.2)
      fragment.entries resolved.entries := by
  rw [resolve_eq] at h
  obtain ⟨entries, he, rfl⟩ := map_eq_ok h
  have hf := forall₂_of_resolveEntries he
  rwa [Store.entries_ofList (keys_of_resolved hf ▸ fragment.distinct)]

theorem keys_of_resolve (h : resolve fragment context = .ok resolved) :
    resolved.keys = fragment.keys :=
  keys_of_resolved (entries_of_resolve h)

theorem get?_of_resolve (h : resolve fragment context = .ok resolved)
    (hk : fragment.get? key = some value) :
    ∃ value', resolved.get? key = some value' ∧
      resolveValue fragment context key value = .ok value' := by
  obtain ⟨⟨key', value'⟩, hm, hkey, hv⟩ :=
    forall₂_exists_of_mem (entries_of_resolve h) (Store.get?_eq_some_iff.1 hk)
  subst hkey
  exact ⟨value', Store.get?_eq_some_iff.2 hm, hv⟩

/-- A document fails where its first entry that fails does. -/
theorem resolve_error_iff :
    resolve fragment context = .error failure ↔
      ∃ before key value after, fragment.entries = before ++ (key, value) :: after ∧
        resolveValue fragment context key value = .error failure ∧
        ∀ e ∈ before, ∃ value', resolveValue fragment context e.1 e.2 = .ok value' := by
  rw [resolve_eq, map_eq_error_iff, resolveEntries_eq_mapM, mapM_error_iff]
  constructor
  · rintro ⟨before, e, after, he, hf, hb⟩
    refine ⟨before, e.1, e.2, after, he, map_eq_error_iff.1 hf, ?_⟩
    intro d hd
    obtain ⟨_, hv⟩ := hb d hd
    obtain ⟨v, hv, -⟩ := map_eq_ok hv
    exact ⟨v, hv⟩
  · rintro ⟨before, key, value, after, he, hf, hb⟩
    refine ⟨before, (key, value), after, he, map_eq_error_iff.2 hf, ?_⟩
    intro d hd
    obtain ⟨v, hv⟩ := hb d hd
    exact ⟨(d.1, v), by rw [hv]; rfl⟩

end Placeholder

end Conform
