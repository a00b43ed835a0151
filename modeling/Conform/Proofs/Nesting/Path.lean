import Mathlib.Data.List.Induction
import Conform.Document.Nesting
import Conform.Proofs.Value.Parts

namespace Conform

theorem Entries.mem_put {α : Type} {entries : List (String × α)} {k : String} {v : α}
    {e : String × α} (h : e ∈ put entries k v) : e = (k, v) ∨ e ∈ entries := by
  induction entries with
  | nil => exact .inl (List.mem_singleton.1 h)
  | cons first rest ih =>
    rw [put] at h
    split at h
    next =>
      rcases List.mem_cons.1 h with rfl | h
      · exact .inl rfl
      · exact .inr (List.mem_cons_of_mem _ h)
    next =>
      rcases List.mem_cons.1 h with rfl | h
      · exact .inr List.mem_cons_self
      · exact (ih h).imp_right (List.mem_cons_of_mem _)

def Value.isMap : Value → Bool
  | .map _ => true
  | _ => false

namespace Nesting

def find? (value : Value) (path : List String) : Option Value := value.at? (path.map .entry)

/-- The value at the end of a path, unless a map is there. -/
def leaf? (value : Value) (path : List String) : Option Value :=
  (find? value path).filter fun found => !found.isMap

def hasMap (value : Value) (path : List String) : Bool := (find? value path).any Value.isMap

/-- The names of every map that names lead to are distinct. Unlike `Value.Keyed` this says nothing of
maps in lists. -/
def Keyed (value : Value) : Prop :=
  ∀ path part, find? value path = some part → part.mapKeys.Nodup

/-- A path leads to a place above another. -/
def Above (path other : List String) : Prop := path <+: other ∧ path ≠ other

variable {entries : List (String × Value)} {name : String} {path other : List String}
  {value found : Value}

theorem above_cons_iff {next : String} :
    Above (name :: path) (next :: other) ↔ name = next ∧ Above path other := by
  simp only [Above, List.cons_prefix_cons, ne_eq, List.cons.injEq, not_and]
  constructor
  · rintro ⟨⟨rfl, hp⟩, hne⟩
    exact ⟨rfl, hp, hne rfl⟩
  · rintro ⟨rfl, hp, hne⟩
    exact ⟨⟨rfl, hp⟩, fun _ => hne⟩

theorem not_above_nil (path : List String) : ¬ Above path [] := by
  rintro ⟨hp, hne⟩
  exact hne (List.prefix_nil.1 hp)

theorem nil_above_cons (name : String) (path : List String) : Above [] (name :: path) :=
  ⟨List.nil_prefix, by simp⟩

@[simp] theorem find?_nil (value : Value) : find? value [] = some value := by
  rw [find?, List.map_nil, Value.at?]

theorem find?_of_not_map (h : value.isMap = false) : find? value (name :: path) = none := by
  cases value with
  | map entries => cases h
  | _ => rfl

theorem find?_map (entries : List (String × Value)) (name : String) (path : List String) :
    find? (.map entries) (name :: path) = (entries.lookup name).bind (find? · path) :=
  Value.at?_map_entry entries name (path.map .entry)

theorem find?_below (entries : List (String × Value)) (name next : String) (path : List String) :
    find? (.map entries) (name :: next :: path) =
      find? (.map (below name entries)) (next :: path) := by
  rw [find?_map, below]
  cases hl : entries.lookup name with
  | none => rfl
  | some found =>
    cases hm : found.isMap with
    | true =>
      cases found with
      | map inner => rfl
      | _ => cases hm
    | false =>
      have hnone : find? found (next :: path) = none := find?_of_not_map hm
      cases found with
      | map inner => cases hm
      | _ => exact hnone

section Write

variable {next : String}

theorem write_single (h : hasMap (.map entries) [name] = false) :
    write entries [name] value = Entries.put entries name value := by
  rw [write]
  split
  next inner hl =>
    rw [hasMap, find?_map, hl] at h
    cases h
  next => rfl

theorem write_single_of_hasMap (h : hasMap (.map entries) [name] = true) :
    write entries [name] value = entries := by
  rw [write]
  split
  next => rfl
  next hl =>
    rw [hasMap, find?_map] at h
    cases hn : entries.lookup name with
    | none =>
      rw [hn] at h
      cases h
    | some found =>
      rw [hn] at h
      cases found with
      | map inner => exact absurd hn (hl inner)
      | _ => cases h

theorem find?_put (entries : List (String × Value)) (name : String) (value : Value) (next : String)
    (path : List String) :
    find? (.map (Entries.put entries name value)) (next :: path) =
      if next = name then find? value path else find? (.map entries) (next :: path) := by
  rw [find?_map, find?_map, Entries.lookup_put]
  split
  next => rfl
  next => rfl

/-- Beside its path and the places above it a write changes nothing. -/
theorem find?_write (hv : value.isMap = false) (hp : path ≠ []) (ho : other ≠ path)
    (ha : ¬ Above other path) :
    find? (.map (write entries path value)) other = find? (.map entries) other := by
  induction path generalizing entries other with
  | nil => exact absurd rfl hp
  | cons name path ih =>
    cases other with
    | nil => exact absurd (nil_above_cons name path) ha
    | cons first other =>
      cases path with
      | nil =>
        cases hm : hasMap (.map entries) [name] with
        | true => rw [write_single_of_hasMap hm]
        | false =>
          rw [write_single hm, find?_put]
          split
          next heq =>
            subst heq
            -- Nothing can stand below a value that is no map, neither before nor after.
            cases other with
            | nil => exact absurd rfl ho
            | cons second other =>
              rw [find?_of_not_map hv, find?_map]
              cases hl : entries.lookup first with
              | none => rfl
              | some found =>
                rw [hasMap, find?_map, hl] at hm
                exact (find?_of_not_map hm).symm
          next => rfl
      | cons next path =>
        rw [write, find?_put]
        · split
          next heq =>
            subst heq
            cases other with
            | nil => exact absurd (above_cons_iff.2 ⟨rfl, nil_above_cons next path⟩) ha
            | cons second other =>
              rw [find?_below]
              apply ih
              · simp
              · exact fun he => ho (congrArg (first :: ·) he)
              · exact fun h => ha (above_cons_iff.2 ⟨rfl, h⟩)
          next => rfl
        · simp

theorem find?_write_self (hp : path ≠ []) :
    find? (.map (write entries path value)) path =
      if hasMap (.map entries) path then find? (.map entries) path else some value := by
  induction path generalizing entries with
  | nil => exact absurd rfl hp
  | cons name path ih =>
    cases path with
    | nil =>
      split
      next hm => rw [write_single_of_hasMap hm]
      next hm =>
        rw [write_single (Bool.eq_false_iff.2 hm), find?_put, if_pos rfl]
        rfl
    | cons next path =>
      rw [write, find?_put, if_pos rfl, ih (by simp), hasMap, hasMap, find?_below]
      simp

theorem hasMap_write (h : Above other path) :
    hasMap (.map (write entries path value)) other = true := by
  induction path generalizing entries other with
  | nil => exact absurd h (not_above_nil other)
  | cons name path ih =>
    cases other with
    | nil => rfl
    | cons first other =>
      obtain ⟨rfl, hrest⟩ := above_cons_iff.1 h
      cases path with
      | nil => exact absurd hrest (not_above_nil other)
      | cons next path =>
        rw [write, hasMap, find?_put, if_pos rfl]
        · exact ih hrest
        · simp

theorem hasMap_write_iff (hv : value.isMap = false) (hp : path ≠ []) :
    hasMap (.map (write entries path value)) other = true ↔
      Above other path ∨ hasMap (.map entries) other = true := by
  by_cases ha : Above other path
  · simp [ha, hasMap_write ha]
  · simp only [ha, false_or]
    by_cases ho : other = path
    · subst ho
      rw [hasMap, find?_write_self hp]
      split
      next => exact Iff.rfl
      next hm => simp [hm, hv]
    · rw [hasMap, find?_write hv hp ho ha, hasMap]

theorem leaf?_eq_none (h : hasMap value path = true) : leaf? value path = none := by
  rw [hasMap] at h
  rw [leaf?]
  cases hf : find? value path with
  | none => rfl
  | some found =>
    rw [hf] at h
    exact Option.filter_eq_none_iff.2 fun _ hx => by
      cases hx
      simpa using h

theorem leaf?_write_self (hv : value.isMap = false) (hp : path ≠ []) :
    leaf? (.map (write entries path value)) path =
      if hasMap (.map entries) path then none else some value := by
  split
  next hm => exact leaf?_eq_none ((hasMap_write_iff hv hp).2 (.inr hm))
  next hm =>
    rw [leaf?, find?_write_self hp, if_neg hm]
    simp [hv]

theorem leaf?_write (hv : value.isMap = false) (hp : path ≠ []) (ho : other ≠ path)
    (ha : ¬ Above other path) :
    leaf? (.map (write entries path value)) other = leaf? (.map entries) other := by
  rw [leaf?, leaf?, find?_write hv hp ho ha]

end Write

section Keyed

theorem keyed_of_not_map (h : value.isMap = false) : Keyed value := by
  intro path part hpart
  cases path with
  | nil =>
    rw [find?_nil, Option.some_inj] at hpart
    subst hpart
    cases value with
    | map entries => cases h
    | _ => exact List.nodup_nil
  | cons name path =>
    rw [find?_of_not_map h] at hpart
    cases hpart

theorem keyed_map :
    Keyed (.map entries) ↔ (entries.map Prod.fst).Nodup ∧ ∀ entry ∈ entries, Keyed entry.2 := by
  constructor
  · intro h
    have hd : (entries.map Prod.fst).Nodup := h [] _ (find?_nil _)
    refine ⟨hd, (Entries.forall_lookup_iff hd).1 fun name value hl path part hpart => ?_⟩
    apply h (name :: path) part
    rw [find?_map, hl]
    exact hpart
  · rintro ⟨hd, h⟩ path part hpart
    cases path with
    | nil =>
      cases hpart
      exact hd
    | cons name path =>
      rw [find?_map, Option.bind_eq_some_iff] at hpart
      obtain ⟨value, hl, hpart⟩ := hpart
      exact (Entries.forall_lookup_iff hd).2 h name value hl path part hpart

theorem Keyed.put (h : Keyed (.map entries)) (hv : Keyed value) (name : String) :
    Keyed (.map (Entries.put entries name value)) := by
  obtain ⟨hd, h⟩ := keyed_map.1 h
  refine keyed_map.2 ⟨Entries.nodup_put hd name value, fun entry he => ?_⟩
  rcases Entries.mem_put he with rfl | he
  · exact hv
  · exact h entry he

theorem keyed_below (h : Keyed (.map entries)) (name : String) :
    Keyed (.map (below name entries)) := by
  rw [below]
  split
  next inner hl =>
    obtain ⟨hd, h⟩ := keyed_map.1 h
    exact (Entries.forall_lookup_iff hd).2 h name _ hl
  next => exact keyed_map.2 ⟨List.nodup_nil, by simp⟩

theorem Keyed.write (h : Keyed (.map entries)) (hv : Keyed value) (path : List String) :
    Keyed (.map (write entries path value)) := by
  induction path generalizing entries with
  | nil => exact h
  | cons name path ih =>
    cases path with
    | nil =>
      rw [Nesting.write]
      split
      next => exact h
      next => exact h.put hv name
    | cons next path =>
      rw [Nesting.write]
      · exact h.put (ih (keyed_below h name)) name
      · simp

end Keyed

/-- The entries written one after another, each at the segments of its key. -/
def writeAll (writes : List (String × Value)) : List (String × Value) :=
  writes.foldl (fun entries (key, value) => write entries (segments key) value) []

section WriteAll

variable {writes : List (String × Value)}

theorem writeAll_append (writes : List (String × Value)) (key : String) (value : Value) :
    writeAll (writes ++ [(key, value)]) = write (writeAll writes) (segments key) value :=
  List.foldl_append ..

theorem hasMap_writeAll_iff (hv : ∀ e ∈ writes, e.2.isMap = false) (path : List String) :
    hasMap (.map (writeAll writes)) path = true ↔
      path = [] ∨ ∃ e ∈ writes, Above path (segments e.1) := by
  induction writes using List.reverseRecOn with
  | nil => cases path <;> simp [writeAll, hasMap, find?_map, Value.isMap]
  | append_singleton writes e ih =>
    obtain ⟨key, value⟩ := e
    rw [writeAll_append, hasMap_write_iff (hv (key, value) (by simp)) (segments_ne_nil key),
      ih fun e he => hv e (by simp [he])]
    simp only [List.mem_append, List.mem_singleton, or_and_right, exists_or, exists_eq_left]
    exact or_comm.trans or_assoc

/-- What ends at a path once all is written: the value written there, if none was written below. -/
theorem leaf?_writeAll_iff (hv : ∀ e ∈ writes, e.2.isMap = false)
    (hd : (writes.map Prod.fst).Nodup) (path : List String) (found : Value) :
    leaf? (.map (writeAll writes)) path = some found ↔
      (∃ e ∈ writes, segments e.1 = path ∧ e.2 = found) ∧
        ∀ e ∈ writes, ¬ Above path (segments e.1) := by
  induction writes using List.reverseRecOn with
  | nil =>
    cases path with
    | nil => simp [leaf?_eq_none (rfl : hasMap (.map []) [] = true), writeAll]
    | cons name path => simp [writeAll, leaf?, find?_map]
  | append_singleton writes e ih =>
    obtain ⟨key, value⟩ := e
    have hvalue : value.isMap = false := hv (key, value) (by simp)
    have hvs : ∀ e ∈ writes, e.2.isMap = false := fun e he => hv e (by simp [he])
    rw [List.map_append, List.nodup_append] at hd
    have hfresh : ∀ e ∈ writes, segments e.1 ≠ segments key := by
      intro e he hs
      exact hd.2.2 e.1 (List.mem_map_of_mem he) key (by simp) (segments_injective hs)
    rw [writeAll_append]
    by_cases ha : Above path (segments key)
    · rw [leaf?_eq_none ((hasMap_write_iff hvalue (segments_ne_nil key)).2 (.inl ha))]
      simp only [reduceCtorEq, false_iff, not_and, not_forall, not_not]
      exact fun _ => ⟨(key, value), by simp, ha⟩
    · by_cases hp : path = segments key
      · subst hp
        rw [leaf?_write_self hvalue (segments_ne_nil key)]
        have hsome : (∃ e ∈ writes ++ [(key, value)], segments e.1 = segments key ∧ e.2 = found) ↔
            value = found := by
          constructor
          · rintro ⟨e, he, hs, hf⟩
            rcases List.mem_append.1 he with he | he
            · exact absurd hs (hfresh e he)
            · rw [List.mem_singleton.1 he] at hf
              exact hf
          · intro hf
            exact ⟨(key, value), by simp, rfl, hf⟩
        have hmap := hasMap_writeAll_iff hvs (segments key)
        rw [hsome]
        split
        next hm =>
          obtain hnil | ⟨e, he, hbelow⟩ := hmap.1 hm
          · exact absurd hnil (segments_ne_nil key)
          · simp only [reduceCtorEq, false_iff, not_and]
            intro _ hnone
            exact hnone e (by simp [he]) hbelow
        next hm =>
          rw [Option.some_inj]
          refine ⟨fun hf => ⟨hf, ?_⟩, And.left⟩
          intro e he hbelow
          rcases List.mem_append.1 he with he | he
          · exact hm (hmap.2 (.inr ⟨e, he, hbelow⟩))
          · rw [List.mem_singleton.1 he] at hbelow
            exact ha hbelow
      · rw [leaf?_write hvalue (segments_ne_nil key) hp ha, ih hvs hd.1]
        have hne : segments key ≠ path := Ne.symm hp
        simp [or_and_right, exists_or, forall_and, or_imp, hne, ha]

theorem keyed_writeAll (h : ∀ e ∈ writes, e.2.isMap = false) : Keyed (.map (writeAll writes)) := by
  induction writes using List.reverseRecOn with
  | nil => exact keyed_map.2 ⟨List.nodup_nil, by simp [writeAll]⟩
  | append_singleton writes e ih =>
    rw [writeAll_append]
    exact (ih fun e he => h e (by simp [he])).write (keyed_of_not_map (h e (by simp))) _

end WriteAll

end Nesting

end Conform
