import Conform.Proofs.Store.Writes

namespace Conform

variable {α β : Type}

namespace Store

theorem ext_get? {s t : Store α} (hk : s.keys = t.keys) (h : ∀ k, s.get? k = t.get? k) :
    s = t := by
  apply ext
  apply List.ext_getElem
  · simpa [keys] using congrArg List.length hk
  · intro i hs ht
    have hkey : (s.entries[i]).1 = (t.entries[i]).1 := by
      have hi := congrArg (·[i]?) hk
      simpa [keys, hs, ht] using hi
    have hsome : s.get? (s.entries[i]).1 = some (s.entries[i]).2 :=
      get?_eq_some_iff.2 (List.getElem_mem hs)
    have hsome' : t.get? (t.entries[i]).1 = some (t.entries[i]).2 :=
      get?_eq_some_iff.2 (List.getElem_mem ht)
    rw [h, hkey, hsome'] at hsome
    exact Prod.ext hkey (Option.some.inj hsome).symm

theorem keys_insertAll {entries : List (String × α)} (hd : (entries.map Prod.fst).Nodup)
    (s : Store α) :
    (s.insertAll entries).keys = s.keys ++ (entries.map Prod.fst).filter (· ∉ s.keys) := by
  induction entries generalizing s with
  | nil => simp [insertAll]
  | cons e rest ih =>
    obtain ⟨k, v⟩ := e
    obtain ⟨hk, hrest⟩ := List.nodup_cons.1 hd
    change ((s.insert k v).insertAll rest).keys = _
    rw [ih hrest, List.map_cons, List.filter_cons, keys_insert]
    by_cases hs : k ∈ s.keys
    · simp [hs]
    · have hsame : (rest.map Prod.fst).filter (· ∉ s.keys ++ [k]) =
          (rest.map Prod.fst).filter (· ∉ s.keys) := by
        apply List.filter_congr
        intro j hj
        have hne : j ≠ k := fun he => hk (he ▸ hj)
        simp [hne]
      simp only [if_neg hs, hsame, List.append_assoc]
      simp [hs]

theorem get?_insertAll {entries : List (String × α)} (hd : (entries.map Prod.fst).Nodup)
    (s : Store α) (k : String) :
    (s.insertAll entries).get? k = (entries.lookup k).or (s.get? k) := by
  induction entries generalizing s with
  | nil => rfl
  | cons e rest ih =>
    obtain ⟨j, v⟩ := e
    obtain ⟨hj, hrest⟩ := List.nodup_cons.1 hd
    change ((s.insert j v).insertAll rest).get? k = _
    rw [ih hrest, get?_insert]
    by_cases hk : k = j
    · subst hk
      have hnone : rest.lookup k = none := by
        rw [List.lookup_eq_none_iff]
        intro e he
        have hne : k ≠ e.1 := by
          rintro rfl
          exact hj (List.mem_map.2 ⟨e, he, rfl⟩)
        simpa using hne
      simp [hnone]
    · have hb : (k == j) = false := by simpa using hk
      rw [if_neg hk, List.lookup_cons, hb]

theorem keys_merge (s t : Store α) :
    (s.merge t).keys = s.keys ++ t.keys.filter (· ∉ s.keys) :=
  keys_insertAll t.distinct s

theorem get?_merge (s t : Store α) (k : String) :
    (s.merge t).get? k = (t.get? k).or (s.get? k) :=
  get?_insertAll t.distinct s k

theorem insertAll_append (s : Store α) (front back : List (String × α)) :
    s.insertAll (front ++ back) = (s.insertAll front).insertAll back :=
  List.foldl_append ..

theorem get?_ofList_of_last {k : String} {front back : List (String × α)}
    (h : k ∉ back.map Prod.fst) (v : α) : (ofList (front ++ (k, v) :: back)).get? k = some v := by
  rw [ofList, insertAll_append]
  change (((empty.insertAll front).insert k v).insertAll back).get? k = _
  rw [get?_insertAll_of_not_mem h, get?_insert, if_pos rfl]

theorem merge_insert (s t : Store α) (k : String) (v : α) :
    s.merge (t.insert k v) = (s.merge t).insert k v := by
  apply ext_get?
  · rw [keys_merge, keys_insert, keys_insert, keys_merge]
    by_cases ht : k ∈ t.keys
    · by_cases hs : k ∈ s.keys <;> simp [ht, hs]
    · by_cases hs : k ∈ s.keys <;> simp [ht, hs]
  · intro j
    rw [get?_merge, get?_insert, get?_insert, get?_merge]
    split <;> rfl

theorem merge_insertAll (s t : Store α) (entries : List (String × α)) :
    s.merge (t.insertAll entries) = (s.merge t).insertAll entries := by
  induction entries generalizing t with
  | nil => rfl
  | cons e rest ih =>
    change s.merge ((t.insert e.1 e.2).insertAll rest) = ((s.merge t).insert e.1 e.2).insertAll rest
    rw [ih, merge_insert]

theorem merge_ofList (s : Store α) (entries : List (String × α)) :
    s.merge (ofList entries) = s.insertAll entries :=
  merge_insertAll s empty entries

theorem merge_assoc (s t u : Store α) : (s.merge t).merge u = s.merge (t.merge u) :=
  (merge_insertAll s t u.entries).symm

theorem empty_merge (s : Store α) : empty.merge s = s :=
  ofList_entries s

theorem merge_empty (s : Store α) : s.merge empty = s :=
  rfl

theorem merge_self (s : Store α) : s.merge s = s := by
  apply ext_get?
  · have hnew : s.keys.filter (· ∉ s.keys) = [] := by
      rw [List.filter_eq_nil_iff]
      intro k hk
      simpa using hk
    rw [keys_merge, hnew, List.append_nil]
  · intro k
    rw [get?_merge, Option.or_self]

/-- Merging puts stores together in a monoid in which every store is idempotent. A merge holds the
overlay's values where it has any and else those of the base, the base's keys in their order before
the new ones of the overlay in theirs. -/
theorem merge_laws (s t u : Store α) :
    (s.merge t).merge u = s.merge (t.merge u) ∧
    empty.merge s = s ∧ s.merge empty = s ∧ s.merge s = s ∧
    (∀ k, (s.merge t).get? k = if t.contains k then t.get? k else s.get? k) ∧
    (s.merge t).keys = s.keys ++ t.keys.filter (· ∉ s.keys) := by
  have hget : ∀ k, (s.merge t).get? k = if t.contains k then t.get? k else s.get? k := by
    intro k
    rw [get?_merge, contains]
    cases t.get? k <;> rfl
  exact ⟨merge_assoc s t u, empty_merge s, merge_empty s, merge_self s, hget, keys_merge s t⟩

end Store

section Rename

variable {rename : String → String} {f : α → β} {entries : List (String × α)}

theorem Entries.put_map {k : String} (h : ∀ e ∈ entries, rename e.1 = rename k → e.1 = k) (v : α) :
    put (entries.map fun e => (rename e.1, f e.2)) (rename k) (f v) =
      (put entries k v).map fun e => (rename e.1, f e.2) := by
  induction entries with
  | nil => rfl
  | cons e rest ih =>
    have hrest := ih fun d hd => h d (List.mem_cons_of_mem _ hd)
    rw [List.map_cons, put, put, hrest]
    by_cases hk : e.1 = k
    · rw [if_pos hk, if_pos (congrArg rename hk)]
      rfl
    · rw [if_neg hk, if_neg fun he => hk (h e List.mem_cons_self he)]
      rfl

/-- A renaming that keeps keys apart, and a change of values, can be made before or after all is
written. -/
theorem Store.entries_insertAll_map {known : String → Prop} {s : Store α} {t : Store β}
    (h : ∀ j k, known j → known k → rename j = rename k → j = k) (hs : ∀ k ∈ s.keys, known k)
    (he : ∀ e ∈ entries, known e.1)
    (ht : t.entries = s.entries.map fun e => (rename e.1, f e.2)) :
    (t.insertAll (entries.map fun e => (rename e.1, f e.2))).entries =
      (s.insertAll entries).entries.map fun e => (rename e.1, f e.2) := by
  induction entries generalizing s t with
  | nil => exact ht
  | cons e rest ih =>
    have hk : known e.1 := he e List.mem_cons_self
    apply @ih (s.insert e.1 e.2) (t.insert (rename e.1) (f e.2))
    · intro k hmem
      rw [keys_insert] at hmem
      split at hmem
      next => exact hs k hmem
      next =>
        rcases List.mem_append.1 hmem with hmem | hmem
        · exact hs k hmem
        · exact List.mem_singleton.1 hmem ▸ hk
    · exact fun d hd => he d (List.mem_cons_of_mem _ hd)
    · change Entries.put t.entries _ _ = (Entries.put s.entries _ _).map _
      rw [ht, Entries.put_map]
      exact fun d hd hsame => h d.1 e.1 (hs d.1 (List.mem_map_of_mem hd)) hk hsame

end Rename

end Conform
