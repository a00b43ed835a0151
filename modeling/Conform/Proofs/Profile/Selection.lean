import Mathlib.Data.List.Basic
import Conform.Document.Profile
import Conform.Document.Properties
import Conform.Proofs.Store.Merge

namespace Conform.Profile

/-- An entry that counts only where its profile is selected. -/
structure Scoped where
  profile : String
  key : String
  value : String

/-- The key of an entry of a profile in a properties document. -/
def markedKey (profile key : String) : String := "%" ++ profile ++ "." ++ key

/-- The key of an entry of a profile in a structured document. -/
def sectionKey (profile key : String) : String := "profiles." ++ profile ++ "." ++ key

def Scoped.marked (e : Scoped) : String × String := (markedKey e.profile e.key, e.value)

def Scoped.sectioned (e : Scoped) : String × Value := (sectionKey e.profile e.key, .text e.value)

/-- A key that stands for all profiles in documents of both kinds. -/
structure IsPlain (key : String) : Prop where
  unmarked : key.toList.head? ≠ some '%'
  unreserved : isReserved key = false

/-- The key that a marked entry of the selected profile has once the profile is applied. -/
def markedOwnKey? (selected : Option String) (key : String) : Option String :=
  match splitMarked? key with
  | some (some (name, own)) => if some name = selected then some own else none
  | _ => none

section Keys

variable {selected : Option String} {key name own profile : String}

theorem toList_markedKey (profile key : String) :
    (markedKey profile key).toList = '%' :: (profile.toList ++ '.' :: key.toList) := by
  simp [markedKey]

theorem toList_sectionKey (profile key : String) :
    (sectionKey profile key).toList = "profiles.".toList ++ (profile.toList ++ '.' :: key.toList) := by
  simp [sectionKey]

theorem splitMarked?_eq_some_iff :
    splitMarked? key = some (some (name, own)) ↔ '.' ∉ name.toList ∧ key = markedKey name own := by
  rw [← String.toList_inj, toList_markedKey, splitMarked?]
  split
  next marked hkey =>
    rw [hkey, Option.some_inj, Option.map_eq_some_iff]
    constructor
    · rintro ⟨⟨before, after⟩, hsplit, heq⟩
      cases heq
      obtain ⟨rfl, hdot⟩ := Text.splitFirst?_eq_some hsplit
      simp [hdot]
    · rintro ⟨hdot, heq⟩
      rw [(List.cons.inj heq).2]
      exact ⟨_, Text.splitFirst?_append hdot own.toList, by simp⟩
  next hkey =>
    refine iff_of_false (by simp) ?_
    rintro ⟨-, heq⟩
    exact hkey _ heq

theorem isNone_splitMarked?_markedKey (profile key : String) :
    (splitMarked? (markedKey profile key)).isNone = false := by
  rw [splitMarked?, toList_markedKey]
  rfl

theorem splitMarked?_eq_none_iff : splitMarked? key = none ↔ key.toList.head? ≠ some '%' := by
  rw [splitMarked?]
  split
  next hkey => simp [hkey]
  next hkey =>
    refine iff_of_true rfl fun hhead => ?_
    obtain ⟨rest, hrest⟩ := List.head?_eq_some_iff.1 hhead
    exact hkey rest hrest

theorem markedOwnKey?_eq_some_iff :
    markedOwnKey? selected key = some own ↔
      ∃ name, selected = some name ∧ '.' ∉ name.toList ∧ key = markedKey name own := by
  rw [markedOwnKey?]
  constructor
  · intro h
    split at h
    next name own' hsplit =>
      split at h
      next hname =>
        cases h
        exact ⟨name, hname.symm, splitMarked?_eq_some_iff.1 hsplit⟩
      next => cases h
    next => cases h
  · rintro ⟨name, rfl, hkey⟩
    rw [splitMarked?_eq_some_iff.2 hkey]
    exact if_pos rfl

theorem markedOwnKey?_none (key : String) : markedOwnKey? none key = none := by
  rw [Option.eq_none_iff_forall_ne_some]
  intro own hown
  obtain ⟨_, heq, -⟩ := markedOwnKey?_eq_some_iff.1 hown
  cases heq

theorem ownKey?_eq_some_iff :
    ownKey? selected key = some own ↔ ∃ name, selected = some name ∧ key = sectionKey name own := by
  rw [ownKey?, Option.bind_eq_some_iff]
  apply exists_congr
  intro name
  apply and_congr_right
  intro _
  rw [Text.after?_eq_some_iff, sectionKey]

theorem isReserved_sectionKey (profile key : String) : isReserved (sectionKey profile key) = true := by
  have hlead : Text.startsWith "profiles." (sectionKey profile key) = true :=
    Text.startsWith_iff.2 ⟨profile ++ "." ++ key, by simp only [sectionKey, String.append_assoc]⟩
  rw [isReserved, hlead, Bool.or_true]

theorem sectionKey_inj_iff {profile' key' : String} :
    sectionKey profile key = sectionKey profile' key' ↔
      markedKey profile key = markedKey profile' key' := by
  rw [← String.toList_inj, ← String.toList_inj, toList_sectionKey, toList_sectionKey,
    toList_markedKey, toList_markedKey, List.append_cancel_left_eq, List.cons_inj_right]

def sectionOf (key : String) : String :=
  match key.toList with
  | '%' :: marked => String.ofList ("profiles.".toList ++ marked)
  | _ => key

theorem sectionOf_markedKey (profile key : String) :
    sectionOf (markedKey profile key) = sectionKey profile key := by
  rw [← String.toList_inj, toList_sectionKey, sectionOf, toList_markedKey]
  simp

theorem IsPlain.sectionOf_eq (h : IsPlain key) : sectionOf key = key := by
  rw [sectionOf]
  split
  next hkey => exact absurd (by rw [hkey]; rfl) h.unmarked
  next => rfl

/-- A key as documents of both kinds can have it. -/
def Known (key : String) : Prop := IsPlain key ∨ ∃ profile own, key = markedKey profile own

theorem sectionOf_injective {key' : String} (h : Known key) (h' : Known key')
    (heq : sectionOf key = sectionOf key') : key = key' := by
  rcases h with h | ⟨p, k, rfl⟩
  · rw [h.sectionOf_eq] at heq
    rcases h' with h' | ⟨p', k', rfl⟩
    · rwa [h'.sectionOf_eq] at heq
    · rw [sectionOf_markedKey] at heq
      have hreserved := h.unreserved
      rw [heq, isReserved_sectionKey] at hreserved
      cases hreserved
  · rw [sectionOf_markedKey] at heq
    rcases h' with h' | ⟨p', k', rfl⟩
    · rw [h'.sectionOf_eq] at heq
      have hreserved := h'.unreserved
      rw [← heq, isReserved_sectionKey] at hreserved
      cases hreserved
    · rw [sectionOf_markedKey] at heq
      exact sectionKey_inj_iff.1 heq

end Keys

section Overlay

variable {α : Type}

theorem overlayMarked_eq (s : Store α) (selected : Option String) :
    overlayMarked s selected =
      (Store.ofList (s.entries.filter fun e => (splitMarked? e.1).isNone)).insertAll
        (s.entries.filterMap fun e => (markedOwnKey? selected e.1).map (·, e.2)) := by
  rw [overlayMarked]
  congr 1
  apply List.filterMap_congr
  rintro ⟨key, value⟩ -
  change (match splitMarked? key with
    | some (some (name, own)) => if some name = selected then some (own, value) else none
    | _ => none) = (markedOwnKey? selected key).map (·, value)
  rw [markedOwnKey?]
  split
  next => split <;> rfl
  next => rfl

theorem overlay_eq (s : Store α) (selected : Option String) :
    overlay s selected =
      (Store.ofList (s.entries.filter fun e => !isReserved e.1)).insertAll
        (s.entries.filterMap fun e => (ownKey? selected e.1).map (·, e.2)) := by
  have htop : ownKey? selected "profiles" = none := by
    rw [Option.eq_none_iff_forall_ne_some]
    intro own hown
    obtain ⟨name, -, hkey⟩ := ownKey?_eq_some_iff.1 hown
    have hlength := congrArg (fun key => key.toList.length) hkey
    simp [sectionKey] at hlength
  rw [overlay, Store.merge_ofList]
  congr 1
  apply List.filterMap_congr
  rintro ⟨key, value⟩ -
  by_cases hkey : key = "profiles"
  · simp [hkey, htop]
  · simp [hkey]

/-- A profile whose name has a dot selects nothing in a properties document. -/
theorem overlayMarked_of_dotted {name : String} (h : '.' ∈ name.toList) (s : Store α) :
    overlayMarked s (some name) = overlayMarked s none := by
  rw [overlayMarked_eq, overlayMarked_eq]
  congr 1
  apply List.filterMap_congr
  intro e _
  have hname : markedOwnKey? (some name) e.1 = none := by
    rw [Option.eq_none_iff_forall_ne_some]
    intro own hown
    obtain ⟨_, heq, hdot, -⟩ := markedOwnKey?_eq_some_iff.1 hown
    cases heq
    exact hdot h
  rw [hname, markedOwnKey?_none]

end Overlay

section Known

variable {key : String} {entries : List (String × String)}

theorem Known.isReserved_sectionOf (h : Known key) :
    (!isReserved (sectionOf key)) = (splitMarked? key).isNone := by
  rcases h with h | ⟨profile, own, rfl⟩
  · rw [h.sectionOf_eq, h.unreserved, splitMarked?_eq_none_iff.2 h.unmarked]
    rfl
  · rw [sectionOf_markedKey, isReserved_sectionKey, isNone_splitMarked?_markedKey]
    rfl

theorem Known.ownKey?_sectionOf (h : Known key) {selected : Option String}
    (hs : ∀ name, selected = some name → '.' ∉ name.toList) :
    ownKey? selected (sectionOf key) = markedOwnKey? selected key := by
  apply Option.ext
  intro found
  rw [ownKey?_eq_some_iff, markedOwnKey?_eq_some_iff]
  apply exists_congr
  intro name
  apply and_congr_right
  intro hname
  rw [and_iff_right (hs name hname)]
  rcases h with h | ⟨profile, own, rfl⟩
  · rw [h.sectionOf_eq]
    constructor
    · rintro rfl
      have hreserved := h.unreserved
      rw [isReserved_sectionKey] at hreserved
      cases hreserved
    · rintro rfl
      exact absurd (by rw [toList_markedKey]; rfl) h.unmarked
  · rw [sectionOf_markedKey, sectionKey_inj_iff]

theorem filter_sectionOf (h : ∀ e ∈ entries, Known e.1) :
    (entries.map fun e => (sectionOf e.1, Value.text e.2)).filter (fun e => !isReserved e.1) =
      (entries.filter fun e => (splitMarked? e.1).isNone).map fun e => (e.1, .text e.2) := by
  induction entries with
  | nil => rfl
  | cons e rest ih =>
    have he := h e List.mem_cons_self
    rw [List.map_cons, List.filter_cons, List.filter_cons, he.isReserved_sectionOf,
      ih fun d hd => h d (List.mem_cons_of_mem _ hd)]
    split
    next hnone =>
      have hplain : IsPlain e.1 := by
        refine he.resolve_right ?_
        rintro ⟨profile, own, hkey⟩
        rw [hkey, isNone_splitMarked?_markedKey] at hnone
        cases hnone
      rw [hplain.sectionOf_eq, List.map_cons]
    next => rfl

theorem filterMap_sectionOf (h : ∀ e ∈ entries, Known e.1) {selected : Option String}
    (hs : ∀ name, selected = some name → '.' ∉ name.toList) :
    (entries.map fun e => (sectionOf e.1, Value.text e.2)).filterMap
        (fun e => (ownKey? selected e.1).map (·, e.2)) =
      (entries.filterMap fun e => (markedOwnKey? selected e.1).map (·, e.2)).map
        fun e => (e.1, .text e.2) := by
  rw [List.filterMap_map, List.map_filterMap]
  apply List.filterMap_congr
  intro e he
  simp only [Function.comp_apply, (h e he).ownKey?_sectionOf hs, Option.map_map]
  rfl

end Known

/-- A properties document and the structured document with the same entries come to the same. -/
theorem toConfig_overlayMarked {s : Store String} {t : Config} (h : ∀ e ∈ s.entries, Known e.1)
    (ht : t.entries = s.entries.map fun e => (sectionOf e.1, .text e.2)) {selected : Option String}
    (hs : ∀ name, selected = some name → '.' ∉ name.toList) :
    Properties.toConfig (overlayMarked s selected) = overlay t selected := by
  rw [overlayMarked_eq, overlay_eq, ht, filter_sectionOf h, filterMap_sectionOf h hs]
  -- What is left is a change of values alone, under the keys as they are.
  have hinj : ∀ j k : String, True → True → id j = id k → j = k := fun _ _ _ _ => id
  have hbase : ∀ entries : List (String × String),
      (Store.ofList (entries.map fun e => (id e.1, Value.text e.2))).entries =
        (Store.ofList entries).entries.map fun e => (id e.1, .text e.2) := fun _ =>
    Store.entries_insertAll_map hinj (fun _ _ => trivial) (fun _ _ => trivial) rfl
  apply Store.ext
  exact (Store.entries_insertAll_map hinj (fun _ _ => trivial) (fun _ _ => trivial)
    (hbase _)).symm

theorem toConfig_overlayMarked_ofList {base : List (String × String)}
    (h : ∀ e ∈ base, IsPlain e.1) (own : List Scoped) {selected : Option String}
    (hs : ∀ name, selected = some name → '.' ∉ name.toList) :
    Properties.toConfig (overlayMarked (.ofList (base ++ own.map Scoped.marked)) selected) =
      overlay (.ofList (base.map (fun e => (e.1, .text e.2)) ++ own.map Scoped.sectioned))
        selected := by
  have hknown : ∀ e ∈ base ++ own.map Scoped.marked, Known e.1 := by
    intro e he
    rcases List.mem_append.1 he with he | he
    · exact .inl (h e he)
    · obtain ⟨entry, -, rfl⟩ := List.mem_map.1 he
      exact .inr ⟨_, _, rfl⟩
  have hlists : base.map (fun e => (e.1, Value.text e.2)) ++ own.map Scoped.sectioned =
      (base ++ own.map Scoped.marked).map fun e => (sectionOf e.1, .text e.2) := by
    rw [List.map_append, List.map_map]
    congr 1
    · exact List.map_congr_left fun e he => by rw [(h e he).sectionOf_eq]
    · exact List.map_congr_left fun e _ => by
        rw [Function.comp_apply, Scoped.marked, sectionOf_markedKey, Scoped.sectioned]
  refine toConfig_overlayMarked (fun e he => hknown e ?_) ?_ hs
  · exact Store.mem_of_get?_ofList (Store.get?_eq_some_iff.2 he)
  · rw [hlists]
    exact Store.entries_insertAll_map (s := .empty) (t := .empty) (fun _ _ => sectionOf_injective)
      (fun k hk => by cases hk) hknown rfl

/-- Documents of both kinds select profiles alike exactly if the name of the selected profile has no
dot; a profile whose name has one selects nothing in a properties document. -/
theorem overlays_agree_iff_undotted (selected : Option String) :
    ((∀ (base : List (String × String)) (own : List Scoped), (∀ e ∈ base, IsPlain e.1) →
        Properties.toConfig (overlayMarked (.ofList (base ++ own.map Scoped.marked)) selected) =
          overlay (.ofList (base.map (fun e => (e.1, .text e.2)) ++ own.map Scoped.sectioned))
            selected) ↔
      ∀ name, selected = some name → '.' ∉ name.toList) ∧
    ∀ name, '.' ∈ name.toList → ∀ document : Store String,
      overlayMarked document (some name) = overlayMarked document none := by
  refine ⟨⟨?_, ?_⟩, fun name h document => overlayMarked_of_dotted h document⟩
  · rintro h name rfl hdot
    have hagree := h [] [⟨name, "key", "value"⟩] (by simp)
    have hown : ownKey? (some name) (sectionKey name "key") = some "key" :=
      ownKey?_eq_some_iff.2 ⟨name, rfl, rfl⟩
    have hmarked : overlayMarked (.ofList [(markedKey name "key", "value")]) none = .empty := by
      rw [overlayMarked_eq, Store.entries_ofList (by simp), List.filter_cons,
        isNone_splitMarked?_markedKey, List.filterMap_cons, markedOwnKey?_none]
      rfl
    have hsection : overlay (.ofList [(sectionKey name "key", Value.text "value")]) (some name) =
        .ofList [("key", .text "value")] := by
      rw [overlay_eq, Store.entries_ofList (by simp), List.filter_cons, isReserved_sectionKey,
        List.filterMap_cons, hown]
      rfl
    have hsame : Properties.toConfig .empty = .ofList [("key", .text "value")] := by
      rw [← hmarked, ← hsection, ← overlayMarked_of_dotted hdot]
      exact hagree
    cases congrArg Store.size hsame
  · intro hs base own hplain
    exact toConfig_overlayMarked_ofList hplain own hs

def regional : Scoped := ⟨"eu.prod", "host", "db.internal"⟩

/-- An entry for `eu.prod` counts in a structured document alone. -/
theorem overlays_differ_for_regional :
    Properties.toConfig
        (overlayMarked (.ofList [("host", "localhost"), regional.marked]) (some "eu.prod")) =
      .ofList [("host", Value.text "localhost")] ∧
    overlay (.ofList [("host", Value.text "localhost"), regional.sectioned]) (some "eu.prod") =
      .ofList [("host", Value.text "db.internal")] := by
  constructor <;> rfl

end Conform.Profile
