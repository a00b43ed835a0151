import Conform.Proofs.Nesting.RoundTrip

namespace Conform

namespace Json

mutual

/-- The values of a document that are no objects, with the names on the way to them, in order. -/
def placed : Json → List (List String × Value)
  | object members => placedIn members
  | document => [([], document.toValue)]

def placedIn : List (String × Json) → List (List String × Value)
  | [] => []
  | (name, document) :: rest =>
    (placed document).map (fun e => (name :: e.1, e.2)) ++ placedIn rest

end

mutual

theorem leaves_toValue (key : String) : ∀ document : Json,
    Nesting.leaves key document.toValue =
      document.placed.map fun e => (e.1.foldl Nesting.join key, e.2)
  | object members => by
    rw [toValue, Nesting.leaves, placed]
    exact leavesOf_toEntries key members
  | number literal => by
    rw [toValue, Nesting.leaves_of_not_map (isMap_numberValue literal)]
    rfl
  | null | flag _ | string _ | array _ => rfl

theorem leavesOf_toEntries (key : String) : ∀ members : List (String × Json),
    Nesting.leavesOf key (toEntries members) =
      (placedIn members).map fun e => (e.1.foldl Nesting.join key, e.2)
  | [] => rfl
  | (name, document) :: rest => by
    rw [toEntries, Nesting.leavesOf, placedIn, List.map_append, List.map_map,
      leaves_toValue _ document, leavesOf_toEntries key rest]
    rfl

end

end Json

namespace Toml

mutual

def placed : Toml → List (List String × Value)
  | table entries => placedIn entries
  | document => [([], document.toValue)]

def placedIn : List (String × Toml) → List (List String × Value)
  | [] => []
  | (name, document) :: rest =>
    (placed document).map (fun e => (name :: e.1, e.2)) ++ placedIn rest

end

mutual

theorem leaves_toValue (key : String) : ∀ document : Toml,
    Nesting.leaves key document.toValue =
      document.placed.map fun e => (e.1.foldl Nesting.join key, e.2)
  | table entries => by
    rw [toValue, Nesting.leaves, placed]
    exact leavesOf_toEntries key entries
  | string _ | integer _ | float _ | flag _ | datetime _ | array _ => rfl

theorem leavesOf_toEntries (key : String) : ∀ entries : List (String × Toml),
    Nesting.leavesOf key (toEntries entries) =
      (placedIn entries).map fun e => (e.1.foldl Nesting.join key, e.2)
  | [] => rfl
  | (name, document) :: rest => by
    rw [toEntries, Nesting.leavesOf, placedIn, List.map_append, List.map_map,
      leaves_toValue _ document, leavesOf_toEntries key rest]
    rfl

end

end Toml

namespace Nesting

/-- The key that the names on the way to a value come to. -/
def flatKey (path : List String) : String := joinSegments (path.dropWhile (· = ""))

/-- An empty name at the start of a path has nothing below it. -/
def Anchored (path : List String) : Prop := ∀ rest, path = "" :: rest → rest = []

section Keys

variable {path : List String}

theorem foldl_join (path : List String) : path.foldl join "" = flatKey path := by
  induction path with
  | nil => rfl
  | cons name path ih =>
    have hfirst : join "" name = name := if_pos rfl
    rw [List.foldl_cons, hfirst, flatKey]
    by_cases hname : name = ""
    · rw [hname, ih, flatKey]
      rfl
    · rw [join_foldl hname, List.dropWhile_cons_of_neg (by simpa using hname)]

theorem toList_joinSegments_empty_cons (name : String) (path : List String) :
    (joinSegments ("" :: name :: path)).toList = '.' :: (joinSegments (name :: path)).toList := by
  simp [joinSegments, Text.joinWith]

theorem length_flatKey_le (path : List String) :
    (flatKey path).toList.length ≤ (joinSegments path).toList.length := by
  induction path with
  | nil => exact le_rfl
  | cons name path ih =>
    by_cases hname : name = ""
    · have hdrop : flatKey (name :: path) = flatKey path := by
        rw [flatKey, hname]
        rfl
      rw [hdrop, hname]
      cases path with
      | nil => exact ih
      | cons next path =>
        rw [toList_joinSegments_empty_cons, List.length_cons]
        exact Nat.le_succ_of_le ih
    · rw [flatKey, List.dropWhile_cons_of_neg (by simpa using hname)]

theorem flatKey_eq_iff : flatKey path = joinSegments path ↔ Anchored path := by
  constructor
  · rintro heq rest rfl
    cases rest with
    | nil => rfl
    | cons name rest =>
      have hdrop : flatKey ("" :: name :: rest) = flatKey (name :: rest) := rfl
      have hle := length_flatKey_le (name :: rest)
      rw [← hdrop, heq, toList_joinSegments_empty_cons, List.length_cons] at hle
      exact absurd hle (Nat.not_succ_le_self _)
  · intro h
    cases path with
    | nil => rfl
    | cons name path =>
      by_cases hname : name = ""
      · subst hname
        cases h path rfl
        rfl
      · rw [flatKey, List.dropWhile_cons_of_neg (by simpa using hname)]

end Keys

/-- A configuration holds the values of a document under the keys that their paths come to. Names
joined by dots are these keys if every path is anchored, and only then, unless two such keys
collide. -/
structure HoldsPlaced (values : List (List String × Value)) (c : Config) : Prop where
  eq_flat : c = .ofList (values.map fun e => (flatKey e.1, e.2))
  eq_joined : (∀ e ∈ values, Anchored e.1) →
    c = .ofList (values.map fun e => (joinSegments e.1, e.2))
  anchored : (values.map fun e => joinSegments e.1).Nodup →
    c = .ofList (values.map fun e => (joinSegments e.1, e.2)) → ∀ e ∈ values, Anchored e.1

theorem holdsPlaced_ofList (values : List (List String × Value)) :
    HoldsPlaced values (.ofList (values.map fun e => (flatKey e.1, e.2))) where
  eq_flat := rfl
  eq_joined h := by
    congr 1
    exact List.map_congr_left fun e he => by rw [flatKey_eq_iff.2 (h e he)]
  anchored hd heq := by
    have hjoined : ((values.map fun e => (joinSegments e.1, e.2)).map Prod.fst).Nodup := by
      rw [List.map_map]
      exact hd
    -- No entry is lost among the joined keys, so none is lost among the keys as they are.
    have hsize : (Store.ofList (values.map fun e => (flatKey e.1, e.2))).size = values.length := by
      rw [heq, Store.size, Store.entries_ofList hjoined, List.length_map]
    have hflat : ((values.map fun e => (flatKey e.1, e.2)).map Prod.fst).Nodup :=
      Store.nodup_of_size_ofList (by rw [hsize, List.length_map])
    have hentries := congrArg Store.entries heq
    rw [Store.entries_ofList hflat, Store.entries_ofList hjoined, List.map_inj_left] at hentries
    exact fun e he => flatKey_eq_iff.1 (Prod.mk.inj (hentries e he)).1

theorem flatten_of_leavesOf {entries : List (String × Value)}
    {values : List (List String × Value)}
    (h : leavesOf "" entries = values.map fun e => (e.1.foldl join "", e.2)) :
    HoldsPlaced values (flatten entries) := by
  have hflat : flatten entries = .ofList (values.map fun e => (flatKey e.1, e.2)) := by
    simp only [flatten, h, foldl_join]
  rw [hflat]
  exact holdsPlaced_ofList values

/-- Documents of both formats are flattened alike, and a value is found under the names on its way
joined by dots exactly if its path is anchored. -/
theorem flattened_by_anchored_paths (members : List (String × Json))
    (entries : List (String × Toml)) (path : List String) :
    HoldsPlaced (Json.placedIn members) (Json.object members).toConfig ∧
      HoldsPlaced (Toml.placedIn entries) (Toml.toConfig entries) ∧
      (flatKey path = joinSegments path ↔ Anchored path) :=
  ⟨flatten_of_leavesOf (Json.leavesOf_toEntries "" members),
    flatten_of_leavesOf (Toml.leavesOf_toEntries "" entries), flatKey_eq_iff⟩

def doubled : List (String × Json) := [("a", .flag true), ("", .object [("a", .flag false)])]

def doubledTable : List (String × Toml) := [("a", .flag true), ("", .table [("a", .flag false)])]

/-- The value below the empty name takes the place of another one. -/
theorem doubled_loses_value :
    (Json.object doubled).toConfig = .ofList [("a", .flag false)] ∧
      Toml.toConfig doubledTable = .ofList [("a", .flag false)] ∧
      Store.ofList ((Json.placedIn doubled).map fun e => (joinSegments e.1, e.2)) =
        .ofList [("a", .flag true), (".a", .flag false)] ∧
      Store.ofList ((Toml.placedIn doubledTable).map fun e => (joinSegments e.1, e.2)) =
        .ofList [("a", .flag true), (".a", .flag false)] ∧
      Store.ofList [("a", Value.flag false)] ≠
        .ofList [("a", .flag true), (".a", .flag false)] := by
  refine ⟨rfl, rfl, rfl, rfl, fun h => ?_⟩
  cases congrArg Store.size h

end Nesting

end Conform
