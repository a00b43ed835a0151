import Mathlib.Data.List.Perm.Subperm
import Conform.Store

namespace Conform

variable {α : Type}

theorem Entries.put_of_not_mem {entries : List (String × α)} {k : String}
    (h : k ∉ entries.map Prod.fst) (v : α) : put entries k v = entries ++ [(k, v)] := by
  induction entries with
  | nil => rfl
  | cons e rest ih =>
    obtain ⟨k', v'⟩ := e
    simp only [List.map_cons, List.mem_cons, not_or] at h
    rw [put, if_neg (Ne.symm h.1), ih h.2]
    rfl

theorem Entries.lookup_map {β : Type} (f : α → β) (entries : List (String × α)) (k : String) :
    (entries.map fun e => (e.1, f e.2)).lookup k = (entries.lookup k).map f := by
  induction entries with
  | nil => rfl
  | cons e rest ih =>
    rw [List.map_cons, List.lookup_cons, List.lookup_cons, ih]
    cases k == e.1 <;> rfl

theorem Entries.lookup_eq_some_iff {entries : List (String × α)}
    (hd : (entries.map Prod.fst).Nodup) {k : String} {v : α} :
    entries.lookup k = some v ↔ (k, v) ∈ entries := by
  induction entries with
  | nil => simp
  | cons e rest ih =>
    obtain ⟨k', v'⟩ := e
    rw [List.map_cons, List.nodup_cons] at hd
    by_cases hk : k = k'
    · subst hk
      have hrest : (k, v) ∉ rest := fun hm => hd.1 (List.mem_map.2 ⟨(k, v), hm, rfl⟩)
      simp [hrest, eq_comm]
    · have hb : (k == k') = false := by simpa using hk
      simp [List.lookup_cons, hb, hk, ih hd.2]

theorem Entries.forall_lookup_iff {entries : List (String × α)}
    (hd : (entries.map Prod.fst).Nodup) {p : α → Prop} :
    (∀ k v, entries.lookup k = some v → p v) ↔ ∀ e ∈ entries, p e.2 := by
  simp only [lookup_eq_some_iff hd, Prod.forall]

namespace Store

theorem ext {s t : Store α} (h : s.entries = t.entries) : s = t := by
  cases s
  cases t
  cases h
  rfl

theorem get?_eq_some_iff {s : Store α} {k : String} {v : α} :
    s.get? k = some v ↔ (k, v) ∈ s.entries :=
  Entries.lookup_eq_some_iff s.distinct

theorem mem_keys_iff {s : Store α} {k : String} : k ∈ s.keys ↔ ∃ v, s.get? k = some v := by
  simp [keys, get?_eq_some_iff]

theorem get?_eq_none_iff {s : Store α} {k : String} : s.get? k = none ↔ k ∉ s.keys := by
  rw [mem_keys_iff, Option.eq_none_iff_forall_ne_some]
  simp

theorem get?_eq_of_perm {s t : Store α} (h : s.entries.Perm t.entries) (k : String) :
    s.get? k = t.get? k := by
  apply Option.ext
  intro v
  rw [get?_eq_some_iff, get?_eq_some_iff, h.mem_iff]

theorem entries_insertAll {s : Store α} {entries : List (String × α)}
    (hd : (entries.map Prod.fst).Nodup) (hn : ∀ k ∈ entries.map Prod.fst, k ∉ s.keys) :
    (s.insertAll entries).entries = s.entries ++ entries := by
  induction entries generalizing s with
  | nil => simp [insertAll]
  | cons e rest ih =>
    obtain ⟨k, v⟩ := e
    rw [List.map_cons, List.nodup_cons] at hd
    have hk : k ∉ s.keys := hn k (by simp)
    have hput : (s.insert k v).entries = s.entries ++ [(k, v)] := Entries.put_of_not_mem hk v
    have hrest : ∀ j ∈ rest.map Prod.fst, j ∉ (s.insert k v).keys := by
      intro j hj
      rw [keys_insert, if_neg hk, List.mem_append, List.mem_singleton, not_or]
      exact ⟨hn j (List.mem_cons_of_mem _ hj), fun he => hd.1 (he ▸ hj)⟩
    change ((s.insert k v).insertAll rest).entries = _
    rw [ih hd.2 hrest, hput, List.append_assoc]
    rfl

theorem entries_ofList {entries : List (String × α)} (hd : (entries.map Prod.fst).Nodup) :
    (ofList entries).entries = entries :=
  entries_insertAll hd fun _ _ h => by cases h

@[simp] theorem ofList_entries (s : Store α) : ofList s.entries = s :=
  ext (entries_ofList s.distinct)

theorem get?_insertAll_of_not_mem {entries : List (String × α)} {k : String}
    (h : k ∉ entries.map Prod.fst) (s : Store α) : (s.insertAll entries).get? k = s.get? k := by
  induction entries generalizing s with
  | nil => rfl
  | cons e rest ih =>
    rw [List.map_cons, List.mem_cons, not_or] at h
    change ((s.insert e.1 e.2).insertAll rest).get? k = _
    rw [ih h.2, get?_insert, if_neg h.1]

theorem mem_of_get?_insertAll {entries : List (String × α)} {s : Store α} {k : String} {v : α}
    (h : (s.insertAll entries).get? k = some v) : (k, v) ∈ entries ∨ s.get? k = some v := by
  induction entries generalizing s with
  | nil => exact .inr h
  | cons e rest ih =>
    rcases ih h with hrest | hfirst
    · exact .inl (List.mem_cons_of_mem _ hrest)
    · rw [get?_insert] at hfirst
      split at hfirst
      next hk =>
        cases hfirst
        exact .inl (hk ▸ List.mem_cons_self)
      next => exact .inr hfirst

theorem mem_of_get?_ofList {entries : List (String × α)} {k : String} {v : α}
    (h : (ofList entries).get? k = some v) : (k, v) ∈ entries := by
  rcases mem_of_get?_insertAll h with hm | hempty
  · exact hm
  · cases hempty

theorem nodup_of_size_ofList {entries : List (String × α)}
    (h : (ofList entries).size = entries.length) : (entries.map Prod.fst).Nodup := by
  have hsubset : (ofList entries).keys ⊆ entries.map Prod.fst := by
    intro k hk
    obtain ⟨v, hv⟩ := mem_keys_iff.1 hk
    exact List.mem_map_of_mem (mem_of_get?_ofList hv)
  have hlength : (entries.map Prod.fst).length ≤ (ofList entries).keys.length := by
    rw [List.length_map, ← h, keys, List.length_map]
    exact Nat.le_refl _
  have hperm := (List.subperm_of_subset (ofList entries).distinct hsubset).perm_of_length_le hlength
  exact hperm.nodup (ofList entries).distinct

theorem exists_get?_insertAll {entries : List (String × α)} {k : String}
    (h : k ∈ entries.map Prod.fst) (s : Store α) :
    ∃ v, (s.insertAll entries).get? k = some v := by
  induction entries generalizing s with
  | nil => cases h
  | cons e rest ih =>
    by_cases hrest : k ∈ rest.map Prod.fst
    · exact ih hrest (s.insert e.1 e.2)
    · have hk : k = e.1 := (List.mem_cons.1 h).resolve_right hrest
      refine ⟨e.2, ?_⟩
      change ((s.insert e.1 e.2).insertAll rest).get? k = _
      rw [get?_insertAll_of_not_mem hrest, get?_insert, if_pos hk]

/-- If no key is written with two values, the store holds what is written. -/
theorem get?_ofList_eq_some_iff {entries : List (String × α)}
    (h : ∀ k v v', (k, v) ∈ entries → (k, v') ∈ entries → v = v') {k : String} {v : α} :
    (ofList entries).get? k = some v ↔ (k, v) ∈ entries := by
  refine ⟨mem_of_get?_ofList, fun hm => ?_⟩
  obtain ⟨v', hv'⟩ := exists_get?_insertAll (List.mem_map_of_mem hm) empty
  rw [h k v v' hm (mem_of_get?_ofList hv')]
  exact hv'

theorem get?_insertAll_map {β : Type} (f : α → β) (entries : List (String × α)) {s : Store α}
    {t : Store β} (h : ∀ k, t.get? k = (s.get? k).map f) (k : String) :
    (t.insertAll (entries.map fun e => (e.1, f e.2))).get? k =
      ((s.insertAll entries).get? k).map f := by
  induction entries generalizing s t with
  | nil => exact h k
  | cons e rest ih =>
    apply ih
    intro j
    rw [get?_insert, get?_insert, h j]
    split <;> rfl

theorem get?_ofList_map {β : Type} (f : α → β) (entries : List (String × α)) (k : String) :
    (ofList (entries.map fun e => (e.1, f e.2))).get? k = ((ofList entries).get? k).map f :=
  get?_insertAll_map f entries (fun _ => rfl) k

theorem get?_merge_of_not_mem {overlay : Store α} {k : String} (h : k ∉ overlay.keys)
    (base : Store α) : (base.merge overlay).get? k = base.get? k :=
  get?_insertAll_of_not_mem h base

end Store

end Conform
