import Mathlib.Data.List.Nodup
import Conform.Proofs.Store.Merge

namespace Conform

variable {α : Type}

namespace Entries

variable {rename : String → Option String} {entries : List (String × α)}

/-- The entries whose keys have another name, under that name. -/
def rename? (rename : String → Option String) (entries : List (String × α)) :
    List (String × α) :=
  entries.filterMap fun e => (rename e.1).map (·, e.2)

/-- No two keys come to the same name. -/
def Separates (rename : String → Option String) : Prop :=
  ∀ j k name, rename j = some name → rename k = some name → j = k

theorem rename?_cons_of_some {key name : String} (h : rename key = some name) (value : α) :
    rename? rename ((key, value) :: entries) = (name, value) :: rename? rename entries :=
  List.filterMap_cons_some (congrArg (Option.map (·, value)) h)

theorem rename?_cons_of_none {key : String} (h : rename key = none) (value : α) :
    rename? rename ((key, value) :: entries) = rename? rename entries :=
  List.filterMap_cons_none (congrArg (Option.map (·, value)) h)

theorem keys_rename? (rename : String → Option String) (entries : List (String × α)) :
    (rename? rename entries).map Prod.fst = (entries.map Prod.fst).filterMap rename := by
  induction entries with
  | nil => rfl
  | cons e rest ih =>
    obtain ⟨key, value⟩ := e
    cases h : rename key with
    | none => rw [rename?_cons_of_none h, List.map_cons, List.filterMap_cons_none h, ih]
    | some name =>
      rw [rename?_cons_of_some h, List.map_cons, List.map_cons, List.filterMap_cons_some h, ih]

theorem rename?_rename? (first second : String → Option String) (entries : List (String × α)) :
    rename? second (rename? first entries) =
      rename? (fun key => (first key).bind second) entries := by
  rw [rename?, rename?, List.filterMap_filterMap, rename?]
  congr 1
  funext e
  cases first e.1 <;> rfl

theorem nodup_rename? (h : Separates rename) (hd : (entries.map Prod.fst).Nodup) :
    ((rename? rename entries).map Prod.fst).Nodup := by
  rw [keys_rename?]
  exact List.Nodup.filterMap h hd

theorem rename?_put_of_none {key : String} (h : rename key = none) (value : α) :
    rename? rename (put entries key value) = rename? rename entries := by
  induction entries with
  | nil => exact rename?_cons_of_none h value
  | cons e rest ih =>
    obtain ⟨first, old⟩ := e
    rw [put]
    split
    next heq =>
      subst heq
      rw [rename?_cons_of_none h, rename?_cons_of_none h]
    next =>
      cases hf : rename first with
      | none => rw [rename?_cons_of_none hf, rename?_cons_of_none hf, ih]
      | some name => rw [rename?_cons_of_some hf, rename?_cons_of_some hf, ih]

theorem rename?_put_of_some (hs : Separates rename) {key name : String}
    (h : rename key = some name) (value : α) :
    rename? rename (put entries key value) = put (rename? rename entries) name value := by
  induction entries with
  | nil => exact rename?_cons_of_some h value
  | cons e rest ih =>
    obtain ⟨first, old⟩ := e
    rw [put]
    split
    next heq =>
      subst heq
      rw [rename?_cons_of_some h, rename?_cons_of_some h, put, if_pos rfl]
    next hne =>
      cases hf : rename first with
      | none => rw [rename?_cons_of_none hf, rename?_cons_of_none hf, ih]
      | some other =>
        have hother : other ≠ name := by
          rintro rfl
          exact hne (hs first key other hf h)
        rw [rename?_cons_of_some hf, rename?_cons_of_some hf, put, if_neg hother, ih]

theorem lookup_rename? (hs : Separates rename) {key name : String} (h : rename key = some name) :
    (rename? rename entries).lookup name = entries.lookup key := by
  induction entries with
  | nil => rfl
  | cons e rest ih =>
    obtain ⟨first, value⟩ := e
    cases hf : rename first with
    | none =>
      have hne : (key == first) = false := by
        apply beq_false_of_ne
        rintro rfl
        cases h.symm.trans hf
      rw [rename?_cons_of_none hf, ih, List.lookup_cons, hne]
    | some other =>
      have hsame : (name == other) = (key == first) := by
        rw [Bool.eq_iff_iff, beq_iff_eq, beq_iff_eq]
        constructor
        · rintro rfl
          exact hs key first name h hf
        · rintro rfl
          exact Option.some.inj (h.symm.trans hf)
      rw [rename?_cons_of_some hf, List.lookup_cons, List.lookup_cons, hsame, ih]

end Entries

namespace Store

/-- The key that lies below a dotted key by the rest that a section keeps of it. -/
def keyBelow (within rest : String) : String :=
  String.ofList (Text.dropEndWhile (· = '.') within.toList ++ '.' :: rest.toList)

theorem section?_eq_some_iff {within key rest : String} :
    (section? within key = some rest) ↔ key = keyBelow within rest := by
  rw [section?, Option.map_eq_some_iff, keyBelow]
  constructor
  · rintro ⟨cs, hcs, rfl⟩
    rw [Text.stripPrefix?_eq_some_iff, List.append_assoc] at hcs
    rw [String.toList_ofList, ← String.ofList_toList (s := key), hcs]
    rfl
  · rintro rfl
    refine ⟨rest.toList, ?_, String.ofList_toList⟩
    rw [Text.stripPrefix?_eq_some_iff, String.toList_ofList, List.append_assoc]
    rfl

theorem separates_section? (within : String) : Entries.Separates (section? within) := by
  intro j k rest hj hk
  rw [section?_eq_some_iff] at hj hk
  exact hj.trans hk.symm

section Subset

variable {within : String}

theorem entries_subset (s : Store α) (within : String) :
    (s.subset within).entries = Entries.rename? (section? within) s.entries :=
  entries_ofList (Entries.nodup_rename? (separates_section? within) s.distinct)

theorem get?_subset (s : Store α) (within rest : String) :
    (s.subset within).get? rest = s.get? (keyBelow within rest) := by
  rw [get?, entries_subset]
  exact Entries.lookup_rename? (separates_section? within) (section?_eq_some_iff.2 rfl)

theorem subset_insert_of_none {key : String} (h : section? within key = none) (s : Store α)
    (value : α) : (s.insert key value).subset within = s.subset within := by
  apply ext
  rw [entries_subset, entries_subset]
  exact Entries.rename?_put_of_none h value

theorem subset_insert_of_some {key rest : String} (h : section? within key = some rest)
    (s : Store α) (value : α) :
    (s.insert key value).subset within = (s.subset within).insert rest value := by
  apply ext
  rw [entries_subset]
  change _ = Entries.put (s.subset within).entries rest value
  rw [entries_subset]
  exact Entries.rename?_put_of_some (separates_section? within) h value

/-- A section holds what is written below its key, and nothing else that is written. -/
theorem subset_insertAll (s : Store α) (entries : List (String × α)) (within : String) :
    (s.insertAll entries).subset within =
      (s.subset within).insertAll (Entries.rename? (section? within) entries) := by
  induction entries generalizing s with
  | nil => rfl
  | cons e rest ih =>
    obtain ⟨key, value⟩ := e
    change ((s.insert key value).insertAll rest).subset within = _
    rw [ih]
    cases h : section? within key with
    | none => rw [subset_insert_of_none h, Entries.rename?_cons_of_none h]
    | some name =>
      rw [subset_insert_of_some h, Entries.rename?_cons_of_some h]
      rfl

theorem subset_merge (s t : Store α) (within : String) :
    (s.merge t).subset within = (s.subset within).merge (t.subset within) := by
  rw [merge, subset_insertAll, merge, entries_subset t]

end Subset

section Nested

variable {within inner : String}

theorem keyBelow_append (hw : within.toList.getLast? ≠ some '.')
    (hi : ∃ c ∈ inner.toList, c ≠ '.') (rest : String) :
    keyBelow (within ++ "." ++ inner) rest = keyBelow within (keyBelow inner rest) := by
  obtain ⟨c, hc, hne⟩ := hi
  have hlast : ∀ c, within.toList.getLast? = some c → decide (c = '.') = false := by
    rintro c hl
    apply decide_eq_false
    rintro rfl
    exact hw hl
  have hlead : (within ++ "." ++ inner).toList = (within.toList ++ ['.']) ++ inner.toList := by
    rw [String.toList_append, String.toList_append]
    rfl
  rw [keyBelow, keyBelow, keyBelow, String.toList_ofList, hlead,
    Text.dropEndWhile_append _ hc (decide_eq_false hne), Text.dropEndWhile_of_last hlast]
  simp only [List.append_assoc, List.cons_append, List.nil_append]

theorem section?_append (hw : within.toList.getLast? ≠ some '.')
    (hi : ∃ c ∈ inner.toList, c ≠ '.') (key : String) : section? (within ++ "." ++ inner) key =
      (section? within key).bind (section? inner) := by
  apply Option.ext
  intro rest
  rw [section?_eq_some_iff, keyBelow_append hw hi, Option.bind_eq_some_iff]
  simp only [section?_eq_some_iff, exists_eq_right]

theorem subset_subset (hw : within.toList.getLast? ≠ some '.')
    (hi : ∃ c ∈ inner.toList, c ≠ '.') (s : Store α) :
    (s.subset within).subset inner = s.subset (within ++ "." ++ inner) := by
  apply ext
  rw [entries_subset, entries_subset, entries_subset, Entries.rename?_rename?]
  congr 1
  funext key
  rw [section?_append hw hi]

end Nested

/-- The section of a merge merges the sections, a section holds what lies below its key, and the
section of another one is the section below both keys. -/
theorem section_laws (s t : Store α) (within inner : String) :
    (s.merge t).subset within = (s.subset within).merge (t.subset within) ∧
    (∀ rest, (s.subset within).get? rest =
      s.get? (String.ofList (Text.dropEndWhile (· = '.') within.toList) ++ "." ++ rest)) ∧
    (within.toList.getLast? ≠ some '.' → (∃ c ∈ inner.toList, c ≠ '.') →
      (s.subset within).subset inner = s.subset (within ++ "." ++ inner)) := by
  refine ⟨subset_merge s t within, ?_, fun hw hi => subset_subset hw hi s⟩
  intro rest
  rw [get?_subset, keyBelow]
  congr 1
  apply String.ext
  simp

/-- Keys on both sides of a segment's end, and one that both stores hold. -/
def pool : Store Nat :=
  .ofList [("db.pool.size", 4), ("dbx.pool", 1), ("db.host", 2), ("db..pool", 3)]

def poolOverlay : Store Nat := .ofList [("db.pool.idle", 5), ("db.pool.size", 8), ("db", 6)]

theorem section_laws_pool :
    "db".toList.getLast? ≠ some '.' ∧ (∃ c ∈ "pool..".toList, c ≠ '.') ∧
      (pool.merge poolOverlay).subset "db" =
        .ofList [("pool.size", 8), ("host", 2), (".pool", 3), ("pool.idle", 5)] ∧
      (pool.subset "db").get? "pool.size" = some 4 ∧
      (pool.subset "db").subset "pool.." = .ofList [("size", 4)] := by
  have hw : "db".toList.getLast? ≠ some '.' := by decide
  have hi : ∃ c ∈ "pool..".toList, c ≠ '.' := ⟨'p', by decide, by decide⟩
  obtain ⟨hmerge, hget, hnested⟩ := section_laws pool poolOverlay "db" "pool.."
  exact ⟨hw, hi, hmerge.trans rfl, (hget "pool.size").trans rfl, (hnested hw hi).trans rfl⟩

end Store

end Conform
