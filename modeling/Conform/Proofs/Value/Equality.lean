import Mathlib.Data.List.Perm.Subperm
import Conform.Proofs.Value.Order
import Conform.Proofs.Value.Parts

namespace Conform

section Items

variable {α : Type} {R S : α → α → Prop} {xs ys zs : List α}

theorem Forall₂.symm_of_mem (h : List.Forall₂ R xs ys) (hs : ∀ x ∈ xs, ∀ y ∈ ys, R x y → S y x) :
    List.Forall₂ S ys xs := by
  induction h with
  | nil => exact .nil
  | cons hxy _ ih =>
    refine .cons (hs _ List.mem_cons_self _ List.mem_cons_self hxy) (ih ?_)
    intro x hx y hy
    exact hs x (List.mem_cons_of_mem _ hx) y (List.mem_cons_of_mem _ hy)

theorem Forall₂.trans_of_mem (h : List.Forall₂ R xs ys) (h' : List.Forall₂ R ys zs)
    (ht : ∀ x ∈ xs, ∀ y z, R x y → R y z → R x z) : List.Forall₂ R xs zs := by
  induction h generalizing zs with
  | nil => exact h'
  | cons hxy _ ih =>
    cases h' with
    | cons hyz h' =>
      refine .cons (ht _ List.mem_cons_self _ _ hxy hyz) (ih h' ?_)
      intro x hx
      exact ht x (List.mem_cons_of_mem _ hx)

end Items

namespace Value

variable {a b c : Value} {items : List Value} {entries : List (String × Value)} {p : Line}

theorem number_induction {motive : Value → Prop}
    (number : ∀ value, value.isNumeric = true → motive value)
    (plain : ∀ value, value.isNumeric = false → value.kind ≠ .list → value.kind ≠ .map →
      motive value)
    (list : ∀ items, (∀ item ∈ items, motive item) → motive (.list items))
    (map : ∀ entries : List (String × Value), (∀ entry ∈ entries, motive entry.2) →
      motive (.map entries))
    (value : Value) : motive value := by
  induction value using Value.induction with
  | leaf value hlist hmap =>
    cases hnumeric : value.isNumeric with
    | true => exact number value hnumeric
    | false => exact plain value hnumeric hlist hmap
  | list items ih => exact list items ih
  | map entries ih => exact map entries ih

theorem placeOf_inj {x y : Decimal} : placeOf x = placeOf y ↔ x.value = y.value := by
  rw [placeOf, placeOf, WithBot.coe_inj, WithTop.coe_inj]

theorem place?_of_toDecimal? {d : Decimal} (h : a.toDecimal? = some d) :
    a.place? = some (placeOf d) := by
  rw [place?.eq_def]
  split
  next => cases h
  next => cases h
  next => rw [h, Option.map_some]

theorem alikeItems_iff {xs ys : List Value} :
    alikeItems xs ys = true ↔ List.Forall₂ (fun x y => x.alike y = true) xs ys := by
  induction xs generalizing ys with
  | nil => cases ys <;> simp [alikeItems]
  | cons x xs ih => cases ys <;> simp [alikeItems, ih]

theorem alikeEntries_iff {xs ys : List (String × Value)} :
    alikeEntries xs ys = true ↔
      ∀ e ∈ xs, ∃ y, ys.lookup e.1 = some y ∧ e.2.alike y = true := by
  induction xs with
  | nil => simp [alikeEntries]
  | cons e xs ih =>
    obtain ⟨k, x⟩ := e
    rw [alikeEntries, Bool.and_eq_true, ih, List.forall_mem_cons]
    cases ys.lookup k <;> simp

theorem alike_list :
    (list items).alike b = true ↔
      ∃ others, b = list others ∧ List.Forall₂ (fun x y => x.alike y = true) items others := by
  cases b <;> simp [alike, alikeItems_iff]

theorem alike_map :
    (map entries).alike b = true ↔
      ∃ others, b = map others ∧ entries.length = others.length ∧
        ∀ e ∈ entries, ∃ y, others.lookup e.1 = some y ∧ e.2.alike y = true := by
  cases b <;> simp [alike, alikeEntries_iff]

theorem kind_of_alike (h : a.alike b = true) : a.kind = b.kind := by
  cases a <;> cases b <;> first | rfl | cases h

theorem isNumeric_of_kind (h : a.kind = b.kind) : a.isNumeric = b.isNumeric := by
  cases a <;> cases b <;> first | rfl | cases h

theorem isNumeric_of_place? (h : a.place? = some p) : a.isNumeric = true :=
  (exists_place?_iff.1 ⟨p, h⟩).1

theorem kind_of_isNumeric (h : a.isNumeric = true) : a.kind ≠ .list ∧ a.kind ≠ .map := by
  cases a <;> simp_all [isNumeric, kind]

theorem same_place_iff {x y : Decimal} (ha : a.toDecimal? = some x) (hb : b.toDecimal? = some y) :
    (∃ p, a.place? = some p ∧ b.place? = some p) ↔ x.value = y.value := by
  rw [place?_of_toDecimal? ha, place?_of_toDecimal? hb, ← placeOf_inj]
  simp [eq_comm]

theorem same_double_iff {x y : Binary64} :
    x.same y = true ↔ ∃ p, (double x).place? = some p ∧ (double y).place? = some p := by
  cases x with
  | nan => simp [Binary64.same, place?, toDecimal?, Binary64.toDecimal?]
  | infinite n =>
    cases y with
    | nan => simp [Binary64.same, place?, toDecimal?, Binary64.toDecimal?]
    | infinite m => cases n <;> cases m <;> simp [Binary64.same, place?]
    | finite m e f =>
      obtain ⟨d, hd⟩ := Binary64.isFinite_iff.1 (rfl : (Binary64.finite m e f).isFinite = true)
      rw [place?_of_toDecimal? (a := double (.finite m e f)) hd]
      have hbot := (bot_lt_placeOf d).ne'
      have htop := (placeOf_lt_top d).ne
      cases n <;> simp [Binary64.same, place?, hbot, htop]
  | finite n e f =>
    obtain ⟨d, hd⟩ := Binary64.isFinite_iff.1 (rfl : (Binary64.finite n e f).isFinite = true)
    cases y with
    | nan => simp [Binary64.same, place?, toDecimal?, Binary64.toDecimal?]
    | infinite m =>
      rw [place?_of_toDecimal? (a := double (.finite n e f)) hd]
      have hbot := (bot_lt_placeOf d).ne
      have htop := (placeOf_lt_top d).ne'
      cases m <;> simp [Binary64.same, place?, hbot, htop]
    | finite m e' f' =>
      obtain ⟨d', hd'⟩ := Binary64.isFinite_iff.1 (rfl : (Binary64.finite m e' f').isFinite = true)
      have hx : (double (.finite n e f)).toDecimal? = some d := hd
      have hy : (double (.finite m e' f')).toDecimal? = some d' := hd'
      rw [Binary64.same_iff_value hd hd', same_place_iff hx hy]

theorem alike_number (h : a.isNumeric = true) :
    a.alike b = true ↔ a.kind = b.kind ∧ ∃ p, a.place? = some p ∧ b.place? = some p := by
  by_cases hkind : a.kind = b.kind
  · rw [and_iff_right hkind]
    cases a with
    | integer m =>
      cases b with
      | integer n =>
        rw [same_place_iff rfl rfl, Decimal.value_ofInt, Decimal.value_ofInt, Int.cast_inj,
          Int64.toInt_inj, alike, beq_iff_eq]
      | _ => cases hkind
    | double x =>
      cases b with
      | double y => exact same_double_iff
      | _ => cases hkind
    | decimal x =>
      cases b with
      | decimal y => rw [same_place_iff rfl rfl, alike, Decimal.same_iff]
      | _ => cases hkind
    | _ => cases h
  · exact iff_of_false (fun hab => hkind (kind_of_alike hab)) fun hab => hkind hab.1

theorem alike_plain (hnumeric : a.isNumeric = false) (hlist : a.kind ≠ .list)
    (hmap : a.kind ≠ .map) : a.alike b = true ↔ a = b := by
  cases a with
  | list items => exact absurd rfl hlist
  | map entries => exact absurd rfl hmap
  | integer n => cases hnumeric
  | double x => cases hnumeric
  | decimal d => cases hnumeric
  | null => cases b <;> simp [alike]
  | flag s => cases b <;> simp [alike]
  | text s => cases b <;> simp [alike]

theorem alike_symm (ha : a.Keyed) (hb : b.Keyed) (h : a.alike b = true) : b.alike a = true := by
  induction a using number_induction generalizing b with
  | number a hnumeric =>
    obtain ⟨hkind, p, hpa, hpb⟩ := (alike_number hnumeric).1 h
    exact (alike_number (isNumeric_of_place? hpb)).2 ⟨hkind.symm, p, hpb, hpa⟩
  | plain a hnumeric hlist hmap =>
    obtain rfl := (alike_plain hnumeric hlist hmap).1 h
    exact h
  | list items ih =>
    obtain ⟨others, rfl, hitems⟩ := alike_list.1 h
    rw [keyed_list] at ha hb
    refine alike_list.2 ⟨items, rfl, Forall₂.symm_of_mem hitems ?_⟩
    intro x hx y hy hxy
    exact ih x hx (ha x hx) (hb y hy) hxy
  | map entries ih =>
    obtain ⟨others, rfl, hlength, hentries⟩ := alike_map.1 h
    obtain ⟨hda, ha⟩ := keyed_map.1 ha
    obtain ⟨hdb, hb⟩ := keyed_map.1 hb
    -- The keys of one map are among those of the other, and there are as many.
    have hsub : entries.map Prod.fst ⊆ others.map Prod.fst := by
      intro k hk
      obtain ⟨e, he, rfl⟩ := List.mem_map.1 hk
      obtain ⟨y, hy, -⟩ := hentries e he
      exact List.mem_map.2 ⟨_, (Entries.lookup_eq_some_iff hdb).1 hy, rfl⟩
    have hperm : (entries.map Prod.fst).Perm (others.map Prod.fst) :=
      (hda.subperm hsub).perm_of_length_le (by simp [hlength])
    refine alike_map.2 ⟨entries, rfl, hlength.symm, fun d hd => ?_⟩
    obtain ⟨e, he, hkey⟩ := List.mem_map.1 (hperm.mem_iff.2 (List.mem_map_of_mem hd))
    obtain ⟨y, hy, hey⟩ := hentries e he
    have hdy : others.lookup e.1 = some d.2 := by
      rw [hkey]
      exact (Entries.lookup_eq_some_iff hdb).2 hd
    cases hy.symm.trans hdy
    refine ⟨e.2, ?_, ih e he (ha e he) (hb d hd) hey⟩
    rw [← hkey]
    exact (Entries.lookup_eq_some_iff hda).2 he

theorem alike_trans (hab : a.alike b = true) (hbc : b.alike c = true) : a.alike c = true := by
  induction a using number_induction generalizing b c with
  | number a hnumeric =>
    obtain ⟨hkind, p, hpa, hpb⟩ := (alike_number hnumeric).1 hab
    obtain ⟨hkind', q, hpb', hpc⟩ := (alike_number (isNumeric_of_place? hpb)).1 hbc
    cases hpb.symm.trans hpb'
    exact (alike_number hnumeric).2 ⟨hkind.trans hkind', p, hpa, hpc⟩
  | plain a hnumeric hlist hmap =>
    obtain rfl := (alike_plain hnumeric hlist hmap).1 hab
    exact hbc
  | list items ih =>
    obtain ⟨others, rfl, hitems⟩ := alike_list.1 hab
    obtain ⟨more, rfl, hothers⟩ := alike_list.1 hbc
    refine alike_list.2 ⟨more, rfl, Forall₂.trans_of_mem hitems hothers ?_⟩
    intro x hx y z
    exact ih x hx
  | map entries ih =>
    obtain ⟨others, rfl, hlength, hentries⟩ := alike_map.1 hab
    obtain ⟨more, rfl, hlength', hothers⟩ := alike_map.1 hbc
    refine alike_map.2 ⟨more, rfl, hlength.trans hlength', fun e he => ?_⟩
    obtain ⟨y, hy, hey⟩ := hentries e he
    obtain ⟨before, after, hsplit, -⟩ := List.lookup_eq_some_iff.1 hy
    obtain ⟨z, hz, hyz⟩ := hothers (e.1, y) (by simp [hsplit])
    exact ⟨z, hz, ih e he hey hyz⟩

theorem definite_number (h : a.isNumeric = true) : a.Definite ↔ ∃ p, a.place? = some p := by
  obtain ⟨hlist, hmap⟩ := kind_of_isNumeric h
  rw [Definite, everywhere_leaf hlist hmap, exists_place?_iff]
  exact (and_iff_right h).symm

theorem alike_self_iff (ha : a.Keyed) : a.alike a = true ↔ a.Definite := by
  induction a using number_induction with
  | number a hnumeric =>
    rw [alike_number hnumeric, definite_number hnumeric]
    simp
  | plain a hnumeric hlist hmap =>
    rw [alike_plain hnumeric hlist hmap, Definite, everywhere_leaf hlist hmap]
    refine iff_of_true rfl ?_
    rintro rfl
    cases hnumeric
  | list items ih =>
    rw [alike_list, definite_list]
    rw [keyed_list] at ha
    simp only [list.injEq, exists_eq_left', List.forall₂_same]
    exact forall₂_congr fun item hi => ih item hi (ha item hi)
  | map entries ih =>
    obtain ⟨hd, ha⟩ := keyed_map.1 ha
    rw [alike_map, definite_map hd]
    simp only [map.injEq, exists_eq_left', true_and]
    refine forall₂_congr fun e he => ?_
    have hlookup : entries.lookup e.1 = some e.2 := (Entries.lookup_eq_some_iff hd).2 he
    rw [hlookup, ← ih e he (ha e he)]
    simp

theorem sameItems_iff {xs ys : List Value} :
    sameItems xs ys = true ↔ List.Forall₂ (fun x y => x.same y = true) xs ys := by
  induction xs generalizing ys with
  | nil => cases ys <;> simp [sameItems]
  | cons x xs ih => cases ys <;> simp [sameItems, ih]

theorem same_list :
    (list items).same b = true ↔
      ∃ others, b = list others ∧ List.Forall₂ (fun x y => x.same y = true) items others := by
  cases b <;> simp [same, sameItems_iff, isNumeric, alike]

theorem same_eq_alike (h : (a.isNumeric && b.isNumeric) = false) (hlist : a.kind ≠ .list) :
    a.same b = a.alike b := by
  cases a with
  | list items => exact absurd rfl hlist
  | _ => simp_all [same]

/-- A number is the same as whatever stands at its place. -/
theorem same_number (h : a.isNumeric = true) :
    a.same b = true ↔ ∃ p, a.place? = some p ∧ b.place? = some p := by
  by_cases hb : b.isNumeric = true
  · have hsame : a.same b = (a.compare b == some .eq) := by
      cases a <;> simp_all [same, isNumeric]
    rw [hsame, beq_iff_eq, compare_eq_some_iff]
    constructor
    · rintro (⟨s, t, rfl, -, -⟩ | ⟨x, y, hx, hy, hxy⟩)
      · cases h
      · cases compare_eq_iff_eq.1 hxy
        exact ⟨x, hx, hy⟩
    · rintro ⟨p, hpa, hpb⟩
      exact .inr ⟨p, p, hpa, hpb, compare_eq_iff_eq.2 rfl⟩
  · have hnot : a.kind ≠ b.kind := fun hkind => hb (isNumeric_of_kind hkind ▸ h)
    rw [same_eq_alike (by simp [hb]) (kind_of_isNumeric h).1]
    refine iff_of_false (fun hab => hnot (kind_of_alike hab)) ?_
    rintro ⟨p, -, hp⟩
    exact hb (isNumeric_of_place? hp)

theorem same_plain (hnumeric : a.isNumeric = false) (hlist : a.kind ≠ .list) :
    a.same b = a.alike b :=
  same_eq_alike (by rw [hnumeric, Bool.false_and]) hlist

theorem same_map : (map entries).same b = (map entries).alike b :=
  same_plain rfl (by simp [kind])

theorem same_symm (ha : a.Keyed) (hb : b.Keyed) (h : a.same b = true) : b.same a = true := by
  induction a using number_induction generalizing b with
  | number a hnumeric =>
    obtain ⟨p, hpa, hpb⟩ := (same_number hnumeric).1 h
    exact (same_number (isNumeric_of_place? hpb)).2 ⟨p, hpb, hpa⟩
  | plain a hnumeric hlist hmap =>
    rw [same_plain hnumeric hlist] at h
    obtain rfl := (alike_plain hnumeric hlist hmap).1 h
    rwa [same_plain hnumeric hlist]
  | list items ih =>
    obtain ⟨others, rfl, hitems⟩ := same_list.1 h
    rw [keyed_list] at ha hb
    refine same_list.2 ⟨items, rfl, Forall₂.symm_of_mem hitems ?_⟩
    intro x hx y hy hxy
    exact ih x hx (ha x hx) (hb y hy) hxy
  | map entries =>
    rw [same_map] at h
    obtain ⟨others, rfl, -⟩ := alike_map.1 h
    rw [same_map]
    exact alike_symm ha hb h

theorem same_comm (ha : a.Keyed) (hb : b.Keyed) : a.same b = b.same a :=
  Bool.eq_iff_iff.2 ⟨same_symm ha hb, same_symm hb ha⟩

theorem same_trans (hab : a.same b = true) (hbc : b.same c = true) : a.same c = true := by
  induction a using number_induction generalizing b c with
  | number a hnumeric =>
    obtain ⟨p, hpa, hpb⟩ := (same_number hnumeric).1 hab
    obtain ⟨q, hpb', hpc⟩ := (same_number (isNumeric_of_place? hpb)).1 hbc
    cases hpb.symm.trans hpb'
    exact (same_number hnumeric).2 ⟨p, hpa, hpc⟩
  | plain a hnumeric hlist hmap =>
    rw [same_plain hnumeric hlist] at hab
    obtain rfl := (alike_plain hnumeric hlist hmap).1 hab
    exact hbc
  | list items ih =>
    obtain ⟨others, rfl, hitems⟩ := same_list.1 hab
    obtain ⟨more, rfl, hothers⟩ := same_list.1 hbc
    refine same_list.2 ⟨more, rfl, Forall₂.trans_of_mem hitems hothers ?_⟩
    intro x hx y z
    exact ih x hx
  | map entries =>
    rw [same_map] at hab ⊢
    obtain ⟨others, rfl, -⟩ := alike_map.1 hab
    rw [same_map] at hbc
    exact alike_trans hab hbc

/-- A value is the same as itself exactly if no double in it is one that is no number. -/
theorem same_self_iff (ha : a.Keyed) : a.same a = true ↔ a.Definite := by
  induction a using number_induction with
  | number a hnumeric =>
    rw [same_number hnumeric, definite_number hnumeric]
    simp
  | plain a hnumeric hlist hmap =>
    rw [same_plain hnumeric hlist, alike_self_iff ha]
  | list items ih =>
    rw [same_list, definite_list]
    rw [keyed_list] at ha
    simp only [list.injEq, exists_eq_left', List.forall₂_same]
    exact forall₂_congr fun item hi => ih item hi (ha item hi)
  | map entries => rw [same_map, alike_self_iff ha]

end Value

end Conform
