import Conform.Proofs.Profile.Selection

namespace Conform.Profile

/-- The key of the section of profiles, or a key below it. -/
def InSection (key : String) : Prop := key = "profiles" ∨ ∃ rest, key = "profiles." ++ rest

variable {α : Type} {key : String} {v : α}

theorem isReserved_iff : isReserved key = true ↔ InSection key := by
  rw [isReserved, Bool.or_eq_true, decide_eq_true_iff, Text.startsWith_iff, InSection]

section Entries

variable (fragment : Store α) (selected : Option String)

theorem get?_base :
    (Store.ofList (fragment.entries.filter fun e => !isReserved e.1)).get? key =
      if isReserved key then none else fragment.get? key := by
  have hdistinct : ((fragment.entries.filter fun e => !isReserved e.1).map Prod.fst).Nodup :=
    fragment.distinct.sublist (List.filter_sublist.map Prod.fst)
  apply Option.ext
  intro v
  rw [Store.get?_eq_some_iff, Store.entries_ofList hdistinct, List.mem_filter,
    ← Store.get?_eq_some_iff]
  cases isReserved key <;> simp

theorem mem_own_iff :
    (key, v) ∈ fragment.entries.filterMap (fun e => (ownKey? selected e.1).map (·, e.2)) ↔
      ∃ name, selected = some name ∧ fragment.get? (sectionKey name key) = some v := by
  rw [List.mem_filterMap]
  constructor
  · rintro ⟨⟨whole, value⟩, hentry, hwritten⟩
    obtain ⟨own, hown, heq⟩ := Option.map_eq_some_iff.1 hwritten
    cases heq
    obtain ⟨name, hname, hwhole⟩ := ownKey?_eq_some_iff.1 hown
    refine ⟨name, hname, Store.get?_eq_some_iff.2 ?_⟩
    rw [← hwhole]
    exact hentry
  · rintro ⟨name, hname, hget⟩
    have hown : ownKey? selected (sectionKey name key) = some key :=
      ownKey?_eq_some_iff.2 ⟨name, hname, rfl⟩
    refine ⟨(sectionKey name key, v), Store.get?_eq_some_iff.1 hget, ?_⟩
    rw [hown]
    rfl

theorem get?_own :
    (Store.ofList (fragment.entries.filterMap fun e =>
        (ownKey? selected e.1).map (·, e.2))).get? key =
      selected.bind fun name => fragment.get? (sectionKey name key) := by
  apply Option.ext
  intro v
  rw [Store.get?_ofList_eq_some_iff, mem_own_iff, Option.bind_eq_some_iff]
  intro k v v' hv hv'
  obtain ⟨name, hname, hget⟩ := (mem_own_iff fragment selected).1 hv
  obtain ⟨name', hname', hget'⟩ := (mem_own_iff fragment selected).1 hv'
  cases hname.symm.trans hname'
  exact Option.some.inj (hget.symm.trans hget')

/-- The value of a key is that below the section of the selected profile, else the fragment's own
unless the key lies in the section of all profiles. -/
theorem get?_overlay :
    (overlay fragment selected).get? key =
      (selected.bind fun name => fragment.get? (sectionKey name key)).or
        (if isReserved key then none else fragment.get? key) := by
  rw [overlay_eq, ← Store.merge_ofList, Store.get?_merge, get?_own, get?_base]

theorem get?_overlay_of_inSection (h : InSection key) :
    (overlay fragment selected).get? key =
      selected.bind fun name => fragment.get? (sectionKey name key) := by
  rw [get?_overlay, if_pos (isReserved_iff.2 h), Option.or_none]

end Entries

/-- No key of the section is left exactly if the selected profile has none below its own section;
one that it has there is left with its value. -/
theorem overlay_drops_section_iff (fragment : Store α) (selected : Option String) :
    ((∀ key ∈ (overlay fragment selected).keys, ¬ InSection key) ↔
      ∀ name, selected = some name → ∀ key, InSection key →
        sectionKey name key ∉ fragment.keys) ∧
    ∀ key, InSection key → (overlay fragment selected).get? key =
      selected.bind fun name => fragment.get? (sectionKey name key) := by
  have hget : ∀ key, InSection key → (overlay fragment selected).get? key =
      selected.bind fun name => fragment.get? (sectionKey name key) :=
    fun key h => get?_overlay_of_inSection fragment selected h
  refine ⟨⟨?_, ?_⟩, hget⟩
  · rintro hnone name rfl key h hkey
    obtain ⟨v, hv⟩ := Store.mem_keys_iff.1 hkey
    have hleft : (overlay fragment (some name)).get? key = some v := by
      rw [hget key h]
      exact hv
    exact hnone key (Store.mem_keys_iff.2 ⟨v, hleft⟩) h
  · intro hnone key hkey h
    obtain ⟨v, hv⟩ := Store.mem_keys_iff.1 hkey
    rw [hget key h] at hv
    obtain ⟨name, hname, hbelow⟩ := Option.bind_eq_some_iff.1 hv
    exact hnone name hname key h (Store.mem_keys_iff.2 ⟨v, hbelow⟩)

def staged : Config :=
  .ofList [("host", .text "localhost"), ("profiles.prod.profiles.dev.host", .text "db.internal")]

theorem section_left_in_staged :
    overlay staged (some "prod") =
      .ofList [("host", .text "localhost"), ("profiles.dev.host", .text "db.internal")] ∧
    "profiles.dev.host" ∈ (overlay staged (some "prod")).keys ∧
    InSection "profiles.dev.host" := by
  have hoverlay : overlay staged (some "prod") =
      .ofList [("host", .text "localhost"), ("profiles.dev.host", .text "db.internal")] := rfl
  refine ⟨hoverlay, ?_, .inr ⟨"dev.host", rfl⟩⟩
  rw [hoverlay]
  decide

end Conform.Profile
