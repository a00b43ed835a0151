import Conform.Proofs.Profile.Section
import Mathlib.Data.List.Nodup

namespace Conform.Profile

instance (key : String) : Decidable (InSection key) := decidable_of_iff _ isReserved_iff

/-- A key of the section of the selected profile. -/
def InProfile (selected : Option String) (key : String) : Prop :=
  ∃ name own, selected = some name ∧ key = sectionKey name own

theorem isSome_ownKey?_iff {selected : Option String} {key : String} :
    (ownKey? selected key).isSome = true ↔ InProfile selected key := by
  rw [Option.isSome_iff_exists]
  constructor
  · rintro ⟨own, hown⟩
    obtain ⟨name, hname, hkey⟩ := ownKey?_eq_some_iff.1 hown
    exact ⟨name, own, hname, hkey⟩
  · rintro ⟨name, own, hname, hkey⟩
    exact ⟨own, ownKey?_eq_some_iff.2 ⟨name, hname, hkey⟩⟩

instance (selected : Option String) (key : String) : Decidable (InProfile selected key) :=
  decidable_of_iff _ isSome_ownKey?_iff

theorem not_isReserved (key : String) : (!isReserved key) = decide (¬ InSection key) := by
  rw [Bool.eq_iff_iff, decide_eq_true_iff, ← isReserved_iff, Bool.not_eq_true', Bool.not_eq_true]

variable {α : Type} {fragment fragment' : Store α} {selected : Option String}

theorem ownKey?_injective {key key' own : String} (h : ownKey? selected key = some own)
    (h' : ownKey? selected key' = some own) : key = key' := by
  obtain ⟨name, hname, hkey⟩ := ownKey?_eq_some_iff.1 h
  obtain ⟨name', hname', hkey'⟩ := ownKey?_eq_some_iff.1 h'
  cases hname.symm.trans hname'
  exact hkey.trans hkey'.symm

theorem nodup_ownKeys (fragment : Store α) (selected : Option String) :
    (fragment.keys.filterMap (ownKey? selected)).Nodup := by
  refine List.Nodup.filterMap ?_ fragment.distinct
  intro key key' own hown hown'
  exact ownKey?_injective (Option.mem_def.1 hown) (Option.mem_def.1 hown')

/-- The keys that hold for all come first, then those that only the selected profile has. -/
theorem keys_overlay (fragment : Store α) (selected : Option String) :
    (overlay fragment selected).keys =
      fragment.keys.filter (¬ InSection ·) ++
        (fragment.keys.filterMap (ownKey? selected)).filter
          (· ∉ fragment.keys.filter (¬ InSection ·)) := by
  have hbase : (Store.ofList (fragment.entries.filter fun e => !isReserved e.1)).keys =
      fragment.keys.filter (¬ InSection ·) := by
    have hdistinct : ((fragment.entries.filter fun e => !isReserved e.1).map Prod.fst).Nodup :=
      fragment.distinct.sublist (List.filter_sublist.map Prod.fst)
    rw [Store.keys, Store.entries_ofList hdistinct, Store.keys, List.filter_map]
    congr 1
    exact List.filter_congr fun e _ => not_isReserved e.1
  have hown : (fragment.entries.filterMap fun e => (ownKey? selected e.1).map (·, e.2)).map
      Prod.fst = fragment.keys.filterMap (ownKey? selected) := by
    rw [Store.keys, List.filterMap_map, List.map_filterMap]
    apply List.filterMap_congr
    intro e _
    cases h : ownKey? selected e.1 <;> simp [h]
  rw [overlay_eq, Store.keys_insertAll (hown ▸ nodup_ownKeys fragment selected), hbase, hown]

/-- Only entries outside the section of profiles and those of the selected profile count. -/
theorem overlay_congr
    (hbase : fragment'.entries.filter (fun e => ¬ InSection e.1) =
      fragment.entries.filter fun e => ¬ InSection e.1)
    (hown : fragment'.entries.filter (fun e => InProfile selected e.1) =
      fragment.entries.filter fun e => InProfile selected e.1) :
    overlay fragment' selected = overlay fragment selected := by
  have hreserved (entries : List (String × α)) :
      entries.filter (fun e => !isReserved e.1) = entries.filter fun e => ¬ InSection e.1 :=
    List.filter_congr fun e _ => not_isReserved e.1
  have hselected (entries : List (String × α)) :
      entries.filterMap (fun e => (ownKey? selected e.1).map (·, e.2)) =
        (entries.filter fun e => InProfile selected e.1).filterMap
          fun e => (ownKey? selected e.1).map (·, e.2) := by
    rw [List.filterMap_filter]
    apply List.filterMap_congr
    intro e _
    split
    next => rfl
    next h =>
      have hnone : ownKey? selected e.1 = none := by
        rw [← Option.not_isSome_iff_eq_none, isSome_ownKey?_iff]
        simpa using h
      rw [hnone]
      rfl
  rw [overlay_eq, overlay_eq, hreserved, hreserved, hbase, hselected fragment'.entries, hown,
    ← hselected fragment.entries]

/-- What a profile makes of a document: under every key the value below the section of the profile,
else the document's own unless the key lies in the section of all profiles. Keys that hold for all
keep their order and come before those that only the profile has. Documents with the same entries
for all and for the profile come to the same. -/
theorem overlay_selects (fragment : Store α) (selected : Option String) :
    (∀ key, (overlay fragment selected).get? key =
      match selected.bind fun name => fragment.get? (sectionKey name key) with
      | some value => some value
      | none => if InSection key then none else fragment.get? key) ∧
    (overlay fragment selected).keys =
      fragment.keys.filter (¬ InSection ·) ++
        (fragment.keys.filterMap (ownKey? selected)).filter
          (· ∉ fragment.keys.filter (¬ InSection ·)) ∧
    ∀ fragment' : Store α,
      fragment'.entries.filter (fun e => ¬ InSection e.1) =
        fragment.entries.filter (fun e => ¬ InSection e.1) →
      fragment'.entries.filter (fun e => InProfile selected e.1) =
        fragment.entries.filter (fun e => InProfile selected e.1) →
      overlay fragment' selected = overlay fragment selected := by
  refine ⟨?_, keys_overlay fragment selected, fun fragment' => overlay_congr⟩
  intro key
  rw [get?_overlay]
  simp only [isReserved_iff]
  cases selected.bind fun name => fragment.get? (sectionKey name key) <;> rfl

/-- Keys that look like those of the profile `prod`, and one of its entries ahead of the entry that
it replaces. -/
def crowded : Store String := .ofList [("profiles.prod.host", "db.internal"), ("profilesx", "1"),
  ("host", "localhost"), ("profiles.prod2.host", "db.test"), ("profiles.prod", "on"),
  ("profiles.prod.user", "me"), ("profiles", "two")]

def sparse : Store String := .ofList [("profilesx", "1"), ("profiles.prod.host", "db.internal"),
  ("profiles.prod.user", "me"), ("host", "localhost")]

theorem overlay_selects_crowded :
    crowded.entries.filter (fun e => ¬ InSection e.1) =
        sparse.entries.filter (fun e => ¬ InSection e.1) ∧
      crowded.entries.filter (fun e => InProfile (some "prod") e.1) =
        sparse.entries.filter (fun e => InProfile (some "prod") e.1) ∧
      overlay crowded (some "prod") = overlay sparse (some "prod") ∧
      overlay sparse (some "prod") =
        .ofList [("profilesx", "1"), ("host", "db.internal"), ("user", "me")] := by
  have hbase : crowded.entries.filter (fun e => ¬ InSection e.1) =
      sparse.entries.filter (fun e => ¬ InSection e.1) := by decide
  have hown : crowded.entries.filter (fun e => InProfile (some "prod") e.1) =
      sparse.entries.filter (fun e => InProfile (some "prod") e.1) := by decide
  exact ⟨hbase, hown, (overlay_selects sparse (some "prod")).2.2 crowded hbase hown, rfl⟩

end Conform.Profile
