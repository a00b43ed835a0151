import Conform.Proofs.Value.Equality

namespace Conform

theorem Entries.lookup_eq_none_iff {α : Type} {entries : List (String × α)} {k : String} :
    entries.lookup k = none ↔ k ∉ entries.map Prod.fst := by
  induction entries with
  | nil => simp
  | cons e rest ih =>
    rw [List.lookup_cons, List.map_cons, List.mem_cons, not_or, ← ih]
    by_cases hk : k = e.1
    · simp [hk]
    · have hb : (k == e.1) = false := by simpa using hk
      simp [hb, hk]

theorem Forall₂.iff_getElem? {α : Type} {R : α → α → Prop} {xs ys : List α} :
    List.Forall₂ R xs ys ↔
      xs.length = ys.length ∧ ∀ (i : Nat) x y, xs[i]? = some x → ys[i]? = some y → R x y := by
  rw [List.forall₂_iff_get]
  refine and_congr_right fun _ => ⟨fun h i x y hx hy => ?_, fun h i hi hi' => ?_⟩
  · obtain ⟨hi, rfl⟩ := List.getElem?_eq_some_iff.1 hx
    obtain ⟨hi', rfl⟩ := List.getElem?_eq_some_iff.1 hy
    exact h i hi hi'
  · exact h i _ _ (List.getElem?_eq_getElem hi) (List.getElem?_eq_getElem hi')

namespace Value

/-- Finite numbers that are equal, whatever their forms. -/
def EqualNumbers (v w : Value) : Prop :=
  ∃ x y, v.toDecimal? = some x ∧ w.toDecimal? = some y ∧ x.value = y.value

/-- The second value is the first with finite numbers in it, at any depth, replaced by equal ones of
any form. -/
inductive Renumbered : Value → Value → Prop
  | keep (v : Value) : Renumbered v v
  | number {v w : Value} (h : EqualNumbers v w) : Renumbered v w
  | list {vs ws : List Value} (hl : vs.length = ws.length)
      (h : ∀ (i : Nat) v w, vs[i]? = some v → ws[i]? = some w → Renumbered v w) :
      Renumbered (.list vs) (.list ws)
  | map {vs ws : List (String × Value)} (hk : vs.map Prod.fst = ws.map Prod.fst)
      (h : ∀ name v w, vs.lookup name = some v → ws.lookup name = some w → Renumbered v w) :
      Renumbered (.map vs) (.map ws)

/-- At all of some places the two values are of the same form. -/
def SameFormsAt (places : List Step → Prop) (v w : Value) : Prop :=
  ∀ path, places path → (v.at? path).map kind = (w.at? path).map kind

/-- A place that lies in a map. -/
def InMap (path : List Step) : Prop := ∃ name, .entry name ∈ path

variable {v w : Value} {vs ws : List Value} {es fs : List (String × Value)}
  {places : List Step → Prop}

theorem EqualNumbers.isNumeric (h : EqualNumbers v w) :
    v.isNumeric = true ∧ w.isNumeric = true := by
  obtain ⟨x, y, hx, hy, -⟩ := h
  exact ⟨isNumeric_of_place? (place?_of_toDecimal? hx),
    isNumeric_of_place? (place?_of_toDecimal? hy)⟩

theorem EqualNumbers.same_place (h : EqualNumbers v w) :
    ∃ p, v.place? = some p ∧ w.place? = some p := by
  obtain ⟨x, y, hx, hy, hxy⟩ := h
  exact (same_place_iff hx hy).2 hxy

theorem at?_number (h : v.isNumeric = true) (step : Step) (path : List Step) :
    v.at? (step :: path) = none :=
  at?_leaf (kind_of_isNumeric h).1 (kind_of_isNumeric h).2 step path

theorem EqualNumbers.sameFormsAt_iff (h : EqualNumbers v w) :
    SameFormsAt places v w ↔ (places [] → v.kind = w.kind) := by
  constructor
  · intro hforms hnil
    have hself := hforms [] hnil
    rw [at?, at?] at hself
    exact Option.some.inj hself
  · intro hkind path hpath
    cases path with
    | nil => rw [at?, at?, Option.map_some, Option.map_some, hkind hpath]
    | cons step path => rw [at?_number h.isNumeric.1, at?_number h.isNumeric.2]

theorem sameFormsAt_list (hl : vs.length = ws.length) :
    SameFormsAt places (list vs) (list ws) ↔
      ∀ (i : Nat) v w, vs[i]? = some v → ws[i]? = some w →
        SameFormsAt (fun path => places (.element i :: path)) v w := by
  constructor
  · intro h i v w hv hw path hplace
    have hpath := h (.element i :: path) hplace
    rwa [at?_list_element, at?_list_element, hv, hw] at hpath
  · intro h path hplace
    match path with
    | [] => rfl
    | .entry name :: path => rfl
    | .element i :: path =>
      rw [at?_list_element, at?_list_element]
      cases hv : vs[i]? with
      | none =>
        have hw : ws[i]? = none := by
          rwa [List.getElem?_eq_none_iff, ← hl, ← List.getElem?_eq_none_iff]
        rw [hw]
      | some v =>
        have hi : i < ws.length := hl ▸ (List.getElem?_eq_some_iff.1 hv).1
        rw [List.getElem?_eq_getElem hi]
        exact h i v _ hv (List.getElem?_eq_getElem hi) path hplace

theorem lookup_of_keys (hk : es.map Prod.fst = fs.map Prod.fst) {name : String}
    (hv : es.lookup name = some v) : ∃ w, fs.lookup name = some w := by
  rw [← Option.ne_none_iff_exists', ne_eq, Entries.lookup_eq_none_iff, ← hk,
    ← Entries.lookup_eq_none_iff, hv]
  exact Option.some_ne_none v

theorem sameFormsAt_map (hk : es.map Prod.fst = fs.map Prod.fst) :
    SameFormsAt places (map es) (map fs) ↔
      ∀ name v w, es.lookup name = some v → fs.lookup name = some w →
        SameFormsAt (fun path => places (.entry name :: path)) v w := by
  constructor
  · intro h name v w hv hw path hplace
    have hpath := h (.entry name :: path) hplace
    rwa [at?_map_entry, at?_map_entry, hv, hw] at hpath
  · intro h path hplace
    match path with
    | [] => rfl
    | .element i :: path => rfl
    | .entry name :: path =>
      rw [at?_map_entry, at?_map_entry]
      cases hv : es.lookup name with
      | none =>
        have hw : fs.lookup name = none := by
          rwa [Entries.lookup_eq_none_iff, ← hk, ← Entries.lookup_eq_none_iff]
        rw [hw]
      | some v =>
        obtain ⟨w, hw⟩ := lookup_of_keys hk hv
        rw [hw]
        exact h name v w hv hw path hplace

theorem not_inMap_nil : ¬ InMap [] := by
  rintro ⟨name, hname⟩
  cases hname

theorem inMap_element (i : Nat) (path : List Step) : InMap (.element i :: path) ↔ InMap path := by
  simp [InMap]

theorem inMap_entry (name : String) (path : List Step) : InMap (.entry name :: path) :=
  ⟨name, List.mem_cons_self⟩

/-- Values that differ in the forms of numbers alone are alike if all are in the same form. -/
theorem Renumbered.alike_iff (h : Renumbered v w) (hk : v.Keyed) (hd : v.Definite) :
    v.alike w = true ↔ SameFormsAt (fun _ => True) v w := by
  induction h with
  | keep v => exact iff_of_true ((alike_self_iff hk).2 hd) fun _ _ => rfl
  | number h =>
    rw [alike_number h.isNumeric.1, and_iff_left h.same_place, h.sameFormsAt_iff]
    simp
  | @list vs ws hl h ih =>
    rw [keyed_list] at hk
    rw [definite_list] at hd
    rw [alike_list, sameFormsAt_list hl]
    simp only [list.injEq, exists_eq_left', Forall₂.iff_getElem?, and_iff_right hl]
    refine forall₅_congr fun i v w hv hw => ?_
    exact ih i v w hv hw (hk v (List.mem_of_getElem? hv)) (hd v (List.mem_of_getElem? hv))
  | @map es fs hkeys h ih =>
    obtain ⟨hnodup, hk⟩ := keyed_map.1 hk
    rw [definite_map hnodup] at hd
    have hlength : es.length = fs.length := by
      rw [← List.length_map (f := Prod.fst), hkeys, List.length_map]
    rw [alike_map, sameFormsAt_map hkeys]
    simp only [map.injEq, exists_eq_left', and_iff_right hlength]
    constructor
    · intro halike name v w hv hw
      have he := (Entries.lookup_eq_some_iff hnodup).1 hv
      obtain ⟨y, hy, hvy⟩ := halike _ he
      cases hw.symm.trans hy
      exact (ih name v w hv hw (hk _ he) (hd _ he)).1 hvy
    · rintro hforms ⟨name, v⟩ he
      have hv := (Entries.lookup_eq_some_iff hnodup).2 he
      obtain ⟨w, hw⟩ := lookup_of_keys hkeys hv
      exact ⟨w, hw, (ih name v w hv hw (hk _ he) (hd _ he)).2 (hforms name v w hv hw)⟩

/-- Values that differ in the forms of numbers alone are the same if those in maps are in the same
form. -/
theorem Renumbered.same_iff (h : Renumbered v w) (hk : v.Keyed) (hd : v.Definite) :
    v.same w = true ↔ SameFormsAt InMap v w := by
  induction h with
  | keep v => exact iff_of_true ((same_self_iff hk).2 hd) fun _ _ => rfl
  | number h =>
    rw [h.sameFormsAt_iff]
    exact iff_of_true ((same_number h.isNumeric.1).2 h.same_place) fun hnil =>
      absurd hnil not_inMap_nil
  | @list vs ws hl h ih =>
    rw [keyed_list] at hk
    rw [definite_list] at hd
    rw [same_list, sameFormsAt_list hl]
    simp only [list.injEq, exists_eq_left', Forall₂.iff_getElem?, and_iff_right hl, inMap_element]
    refine forall₅_congr fun i v w hv hw => ?_
    exact ih i v w hv hw (hk v (List.mem_of_getElem? hv)) (hd v (List.mem_of_getElem? hv))
  | map hkeys h =>
    rw [same_map, Renumbered.alike_iff (.map hkeys h) hk hd, sameFormsAt_map hkeys,
      sameFormsAt_map hkeys]
    simp only [inMap_entry]

theorem Renumbered.keyed (h : Renumbered v w) (hk : v.Keyed) : w.Keyed := by
  induction h with
  | keep v => exact hk
  | number h =>
    obtain ⟨hlist, hmap⟩ := kind_of_isNumeric h.isNumeric.2
    exact keyed_leaf hlist hmap
  | @list vs ws hl h ih =>
    rw [keyed_list] at hk ⊢
    intro w hw
    obtain ⟨i, hw⟩ := List.mem_iff_getElem?.1 hw
    have hi : i < vs.length := hl ▸ (List.getElem?_eq_some_iff.1 hw).1
    exact ih i _ w (List.getElem?_eq_getElem hi) hw (hk _ (List.getElem_mem hi))
  | @map es fs hkeys h ih =>
    obtain ⟨hnodup, hk⟩ := keyed_map.1 hk
    have hnodup' : (fs.map Prod.fst).Nodup := hkeys ▸ hnodup
    refine keyed_map.2 ⟨hnodup', ?_⟩
    rintro ⟨name, w⟩ hf
    have hw := (Entries.lookup_eq_some_iff hnodup').2 hf
    obtain ⟨v, hv⟩ := lookup_of_keys hkeys.symm hw
    exact ih name v w hv hw (hk _ ((Entries.lookup_eq_some_iff hnodup).1 hv))

end Value

end Conform
