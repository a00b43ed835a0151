import Conform.Proofs.Nesting.Path

namespace Conform

/-- A key that begins with another key and a dot. -/
def Extends (other key : String) : Prop := key.toList ++ ['.'] <+: other.toList

instance (other key : String) : Decidable (Extends other key) :=
  inferInstanceAs (Decidable (_ <+: _))

/-- No other key of the configuration lies below a key. -/
def Config.Kept (c : Config) (key : String) : Prop := ∀ other ∈ c.keys, ¬ Extends other key

instance (c : Config) (key : String) : Decidable (c.Kept key) :=
  inferInstanceAs (Decidable (∀ other ∈ c.keys, ¬ Extends other key))

/-- No key begins with a dot, and no value is a map. -/
structure Config.Nestable (c : Config) : Prop where
  undotted : ∀ key ∈ c.keys, key.toList.head? ≠ some '.'
  flat : ∀ entry ∈ c.entries, entry.2.isMap = false

namespace Nesting

section Keys

variable {key other : String}

theorem above_segments_iff : Above (segments key) (segments other) ↔ Extends other key := by
  constructor
  · rintro ⟨⟨rest, hrest⟩, hne⟩
    have hnil : rest ≠ [] := by
      rintro rfl
      exact hne (by simpa using hrest)
    have hjoin : other = joinSegments (segments key ++ rest) := by
      rw [hrest, joinSegments_segments]
    rw [Extends, hjoin, joinSegments, String.toList_ofList, List.map_append,
      Text.joinWith_append]
    · have hkey := congrArg String.toList (joinSegments_segments key)
      rw [joinSegments, String.toList_ofList] at hkey
      rw [hkey]
      exact List.prefix_append ..
    · simpa using segments_ne_nil key
    · simpa using hnil
  · rintro ⟨rest, hrest⟩
    have hsegments : segments other = segments key ++ (Text.pieces '.' rest).map String.ofList := by
      rw [segments, segments, ← hrest, List.append_assoc, List.singleton_append,
        Text.pieces_append_cons, List.map_append]
    rw [hsegments]
    refine ⟨List.prefix_append .., ?_⟩
    simp [Text.pieces_ne_nil]

theorem join_foldl {path : String} (h : path ≠ "") (names : List String) :
    names.foldl join path = joinSegments (path :: names) := by
  induction names generalizing path with
  | nil => simp [joinSegments, Text.joinWith]
  | cons name names ih =>
    have hjoin : join path name = path ++ "." ++ name := if_neg h
    have hne : path ++ "." ++ name ≠ "" := by
      intro hempty
      simpa using congrArg String.toList hempty
    rw [List.foldl_cons, hjoin, ih hne, joinSegments, joinSegments]
    congr 1
    simpa using Text.joinWith_cons_append ['.'] path.toList name.toList (names.map String.toList)

theorem join_segments (h : key.toList.head? ≠ some '.') : (segments key).foldl join "" = key := by
  cases hkey : key.toList with
  | nil =>
    have hempty : key = "" := by simpa using hkey
    subst hempty
    rfl
  | cons c rest =>
    rw [hkey] at h
    have hc : c ≠ '.' := by simpa using h
    have hsegments : ∃ name names, segments key = name :: names ∧ name ≠ "" := by
      rw [segments, hkey, Text.pieces, if_neg hc]
      split
      next => exact ⟨_, _, rfl, by simp⟩
      next piece more _ => exact ⟨_, _, rfl, by simp⟩
    obtain ⟨name, names, hs, hname⟩ := hsegments
    have hfirst : join "" name = name := if_pos rfl
    rw [hs, List.foldl_cons, hfirst, join_foldl hname, ← hs, joinSegments_segments]

end Keys

variable {key path : String} {value : Value}

theorem leavesOf_eq_flatMap (path : String) (entries : List (String × Value)) :
    leavesOf path entries = entries.flatMap fun entry => leaves (join path entry.1) entry.2 := by
  induction entries with
  | nil => rfl
  | cons entry rest ih => rw [leavesOf, ih, List.flatMap_cons]

theorem leaves_of_not_map (h : value.isMap = false) (path : String) :
    leaves path value = [(path, value)] := by
  cases value with
  | map entries => cases h
  | _ => rfl

theorem mem_leaves_iff_of_not_map {found : Value} (h : value.isMap = false) (path : String) :
    (key, found) ∈ leaves path value ↔
      ∃ names, leaf? value names = some found ∧ key = names.foldl join path := by
  rw [leaves_of_not_map h, List.mem_singleton, Prod.mk.injEq]
  constructor
  · rintro ⟨rfl, rfl⟩
    exact ⟨[], by simp [leaf?, h], rfl⟩
  · rintro ⟨names, hleaf, rfl⟩
    cases names with
    | nil => simp_all [leaf?]
    | cons name names => simp [leaf?, find?_of_not_map h] at hleaf

/-- The entries of a flattened document are what its paths lead to. -/
theorem mem_leaves_iff {found : Value} (h : Keyed value) (path : String) :
    (key, found) ∈ leaves path value ↔
      ∃ names, leaf? value names = some found ∧ key = names.foldl join path := by
  induction value using Value.induction generalizing path with
  | leaf value hlist hmap =>
    apply mem_leaves_iff_of_not_map
    cases value with
    | map entries => exact absurd rfl hmap
    | _ => rfl
  | list items => exact mem_leaves_iff_of_not_map rfl path
  | map entries ih =>
    obtain ⟨hd, h⟩ := keyed_map.1 h
    rw [leaves, leavesOf_eq_flatMap, List.mem_flatMap]
    constructor
    · rintro ⟨⟨name, value⟩, hmem, hleaves⟩
      obtain ⟨names, hleaf, rfl⟩ := (ih (name, value) hmem (h _ hmem) _).1 hleaves
      refine ⟨name :: names, ?_, rfl⟩
      rw [leaf?, find?_map, (Entries.lookup_eq_some_iff hd).2 hmem]
      exact hleaf
    · rintro ⟨names, hleaf, rfl⟩
      cases names with
      | nil => cases (leaf?_eq_none rfl).symm.trans hleaf
      | cons name names =>
        rw [leaf?, find?_map] at hleaf
        cases hl : entries.lookup name with
        | none => simp [hl] at hleaf
        | some value =>
          have hmem := (Entries.lookup_eq_some_iff hd).1 hl
          rw [hl] at hleaf
          exact ⟨(name, value), hmem, (ih (name, value) hmem (h _ hmem) _).2 ⟨names, hleaf, rfl⟩⟩

theorem mem_leavesOf_nest {c : Config} (h : c.Nestable) :
    (key, value) ∈ leavesOf "" (nest c) ↔ c.get? key = some value ∧ c.Kept key := by
  have hkeyed : Keyed (.map (nest c)) := keyed_writeAll h.flat
  have hleaf := leaf?_writeAll_iff h.flat c.distinct
  have hkept : c.Kept key ↔ ∀ entry ∈ c.entries, ¬ Above (segments key) (segments entry.1) := by
    simp only [Config.Kept, Store.keys, List.forall_mem_map, above_segments_iff]
  rw [show leavesOf "" (nest c) = leaves "" (.map (nest c)) from rfl, mem_leaves_iff hkeyed,
    Store.get?_eq_some_iff, hkept]
  constructor
  · rintro ⟨names, hnames, rfl⟩
    obtain ⟨⟨⟨key, found⟩, hmem, rfl, rfl⟩, hnone⟩ := (hleaf names value).1 hnames
    rw [join_segments (h.undotted key (List.mem_map_of_mem hmem))]
    exact ⟨hmem, hnone⟩
  · rintro ⟨hmem, hnone⟩
    refine ⟨segments key, (hleaf _ value).2 ⟨⟨_, hmem, rfl, rfl⟩, hnone⟩, ?_⟩
    rw [join_segments (h.undotted key (List.mem_map_of_mem hmem))]

theorem get?_flatten_nest {c : Config} (h : c.Nestable) (key : String) :
    (flatten (nest c)).get? key = if c.Kept key then c.get? key else none := by
  have hone : ∀ key value value', (key, value) ∈ leavesOf "" (nest c) →
      (key, value') ∈ leavesOf "" (nest c) → value = value' := by
    intro key value value' hv hv'
    rw [mem_leavesOf_nest h] at hv hv'
    exact Option.some_inj.1 (hv.1.symm.trans hv'.1)
  apply Option.ext
  intro value
  rw [flatten, Store.get?_ofList_eq_some_iff hone, mem_leavesOf_nest h]
  split
  next hk => simp [hk]
  next hk => simp [hk]

section Change

variable {f : Value → Value}

mutual

theorem leaves_map (hm : ∀ entries, f (.map entries) = .map (entries.map fun e => (e.1, f e.2)))
    (hl : ∀ value, value.isMap = false → (f value).isMap = false) (path : String) :
    ∀ value, leaves path (f value) = (leaves path value).map fun e => (e.1, f e.2)
  | .map entries => by
    rw [hm, leaves, leaves]
    exact leavesOf_map hm hl path entries
  | .null | .flag _ | .text _ | .integer _ | .double _ | .decimal _ | .list _ => by
    rw [leaves_of_not_map (hl _ rfl), leaves_of_not_map rfl]
    rfl

theorem leavesOf_map (hm : ∀ entries, f (.map entries) = .map (entries.map fun e => (e.1, f e.2)))
    (hl : ∀ value, value.isMap = false → (f value).isMap = false) (path : String) :
    ∀ entries, leavesOf path (entries.map fun e => (e.1, f e.2)) =
      (leavesOf path entries).map fun e => (e.1, f e.2)
  | [] => rfl
  | (name, value) :: rest => by
    rw [List.map_cons, leavesOf, leavesOf, List.map_append, leaves_map hm hl, leavesOf_map hm hl]

end

theorem get?_flatten_map
    (hm : ∀ entries, f (.map entries) = .map (entries.map fun e => (e.1, f e.2)))
    (hl : ∀ value, value.isMap = false → (f value).isMap = false) (entries : List (String × Value))
    (key : String) :
    (flatten (entries.map fun e => (e.1, f e.2))).get? key =
      ((flatten entries).get? key).map f := by
  rw [flatten, leavesOf_map hm hl, Store.get?_ofList_map, flatten]

end Change

end Nesting

end Conform
