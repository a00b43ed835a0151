import Mathlib.Data.String.Basic
import Mathlib.Order.WithBot
import Conform.Proofs.Number.Value
import Conform.Value.Order

namespace Conform.Value

/-- The line of numbers with an infinity at either end. -/
abbrev Line := WithBot (WithTop ℚ)

def placeOf (d : Decimal) : Line := ((d.value : WithTop ℚ) : Line)

/-- The place of a number on the line; none for what is no number. -/
def place? : Value → Option Line
  | double (.infinite true) => some ⊥
  | double (.infinite false) => some ⊤
  | v => v.toDecimal?.map placeOf

variable {a b c v : Value} {o : Ordering}

theorem bot_lt_placeOf (d : Decimal) : ⊥ < placeOf d := WithBot.bot_lt_coe _

theorem placeOf_lt_top (d : Decimal) : placeOf d < ⊤ :=
  WithBot.coe_lt_coe.2 (WithTop.coe_lt_top d.value)

theorem compare_placeOf (x y : Decimal) : Ord.compare (placeOf x) (placeOf y) = x.compare y := by
  have hline : StrictMono fun q : ℚ => ((q : WithTop ℚ) : Line) :=
    WithBot.coe_strictMono.comp WithTop.coe_strictMono
  rw [Decimal.compare_eq, ← cmp_eq_compare, ← cmp_eq_compare]
  exact hline.cmp_map_eq x.value y.value

theorem place?_of_infinity? (h : v.infinity? = some o) :
    o = .lt ∧ v.place? = some ⊥ ∨ o = .gt ∧ v.place? = some ⊤ := by
  rw [infinity?.eq_def] at h
  split at h
  next negative =>
    cases negative with
    | true => exact .inl ⟨(Option.some.inj h).symm, rfl⟩
    | false => exact .inr ⟨(Option.some.inj h).symm, rfl⟩
  next => cases h

theorem place?_of_finite (h : v.infinity? = none) : v.place? = v.toDecimal?.map placeOf := by
  rw [place?.eq_def]
  split
  next => cases h
  next => cases h
  next => rfl

theorem compareNumbers_eq (a b : Value) :
    compareNumbers a b = a.place?.bind fun x => b.place?.map fun y => Ord.compare x y := by
  have hbot (d : Decimal) : Ord.compare ⊥ (placeOf d) = .lt :=
    compare_lt_iff_lt.2 (bot_lt_placeOf d)
  have hbot' (d : Decimal) : Ord.compare (placeOf d) ⊥ = .gt :=
    compare_gt_iff_gt.2 (bot_lt_placeOf d)
  have htop (d : Decimal) : Ord.compare ⊤ (placeOf d) = .gt :=
    compare_gt_iff_gt.2 (placeOf_lt_top d)
  have htop' (d : Decimal) : Ord.compare (placeOf d) ⊤ = .lt :=
    compare_lt_iff_lt.2 (placeOf_lt_top d)
  have hends : Ord.compare (⊥ : Line) ⊤ = .lt := compare_lt_iff_lt.2 bot_lt_top
  have hends' : Ord.compare (⊤ : Line) ⊥ = .gt := compare_gt_iff_gt.2 bot_lt_top
  rw [compareNumbers]
  cases ha : a.infinity? with
  | some x =>
    cases hb : b.infinity? with
    | some y =>
      rcases place?_of_infinity? ha with ⟨rfl, hx⟩ | ⟨rfl, hx⟩ <;>
        rcases place?_of_infinity? hb with ⟨rfl, hy⟩ | ⟨rfl, hy⟩ <;>
          simp [hx, hy, hends, hends']
    | none =>
      rw [place?_of_finite hb]
      rcases place?_of_infinity? ha with ⟨rfl, hx⟩ | ⟨rfl, hx⟩ <;>
        cases b.toDecimal? <;> simp [hx, hbot, htop]
  | none =>
    rw [place?_of_finite ha]
    cases hb : b.infinity? with
    | some y =>
      rcases place?_of_infinity? hb with ⟨rfl, hy⟩ | ⟨rfl, hy⟩ <;>
        cases a.toDecimal? <;> simp [hy, hbot', htop']
    | none =>
      rw [place?_of_finite hb]
      cases a.toDecimal? <;> cases b.toDecimal? <;> simp [compare_placeOf]

theorem exists_place?_iff : (∃ x, v.place? = some x) ↔ v.isNumeric = true ∧ v ≠ double .nan := by
  cases v with
  | double x => cases x with
    | infinite negative => cases negative <;> simp [place?, isNumeric]
    | _ => simp [place?, isNumeric, toDecimal?, Binary64.toDecimal?]
  | _ => simp [place?, isNumeric, toDecimal?]

theorem compare_eq_some_iff :
    a.compare b = some o ↔
      (∃ s t, a = text s ∧ b = text t ∧ Ord.compare s t = o) ∨
        ∃ x y, a.place? = some x ∧ b.place? = some y ∧ Ord.compare x y = o := by
  rw [compare.eq_def]
  split
  next s t =>
    have hnone : (text s).place? = none := rfl
    simp [hnone]
  next htexts =>
    have hnot : ¬ ∃ s t, a = text s ∧ b = text t ∧ Ord.compare s t = o := by
      rintro ⟨s, t, ha, hb, -⟩
      exact htexts s t ha hb
    rw [or_iff_right hnot]
    by_cases hnumeric : (a.isNumeric && b.isNumeric) = true
    · rw [if_pos hnumeric, compareNumbers_eq]
      simp [Option.bind_eq_some_iff]
    · rw [if_neg hnumeric]
      refine iff_of_false (by simp) ?_
      rintro ⟨x, y, hx, hy, -⟩
      have ha := (exists_place?_iff.1 ⟨x, hx⟩).1
      have hb := (exists_place?_iff.1 ⟨y, hy⟩).1
      exact hnumeric (by rw [ha, hb]; rfl)

theorem isText_iff : v.isText = true ↔ ∃ s, v = text s := by
  cases v <;> simp [isText]

theorem isSome_compare_iff :
    (a.compare b).isSome = true ↔
      (a.isText = true ∧ b.isText = true) ∨
        (a.isNumeric = true ∧ a ≠ double .nan) ∧ b.isNumeric = true ∧ b ≠ double .nan := by
  rw [Option.isSome_iff_exists, ← exists_place?_iff, ← exists_place?_iff]
  constructor
  · rintro ⟨o, ho⟩
    rcases compare_eq_some_iff.1 ho with ⟨s, t, rfl, rfl, -⟩ | ⟨x, y, hx, hy, -⟩
    · exact .inl ⟨rfl, rfl⟩
    · exact .inr ⟨⟨x, hx⟩, y, hy⟩
  · rintro (⟨ha, hb⟩ | ⟨⟨x, hx⟩, y, hy⟩)
    · obtain ⟨s, rfl⟩ := isText_iff.1 ha
      obtain ⟨t, rfl⟩ := isText_iff.1 hb
      exact ⟨_, compare_eq_some_iff.2 (.inl ⟨s, t, rfl, rfl, rfl⟩)⟩
    · exact ⟨_, compare_eq_some_iff.2 (.inr ⟨x, y, hx, hy, rfl⟩)⟩

theorem compare_swap (a b : Value) : b.compare a = (a.compare b).map Ordering.swap := by
  apply Option.ext
  intro o
  rw [Option.map_eq_some_iff, compare_eq_some_iff]
  constructor
  · rintro (⟨s, t, rfl, rfl, ho⟩ | ⟨x, y, hx, hy, ho⟩)
    · refine ⟨Ord.compare t s, compare_eq_some_iff.2 (.inl ⟨t, s, rfl, rfl, rfl⟩), ?_⟩
      rw [← ho, ← Std.OrientedOrd.eq_swap]
    · refine ⟨Ord.compare y x, compare_eq_some_iff.2 (.inr ⟨y, x, hy, hx, rfl⟩), ?_⟩
      rw [← ho, ← Std.OrientedOrd.eq_swap]
  · rintro ⟨o', ho', rfl⟩
    rcases compare_eq_some_iff.1 ho' with ⟨s, t, rfl, rfl, rfl⟩ | ⟨x, y, hx, hy, rfl⟩
    · exact .inl ⟨t, s, rfl, rfl, Std.OrientedOrd.eq_swap⟩
    · exact .inr ⟨y, x, hy, hx, Std.OrientedOrd.eq_swap⟩

theorem compare_self (h : (a.compare b).isSome = true) : a.compare a = some .eq := by
  obtain ⟨o, ho⟩ := Option.isSome_iff_exists.1 h
  rcases compare_eq_some_iff.1 ho with ⟨s, t, rfl, -, -⟩ | ⟨x, y, hx, -, -⟩
  · exact compare_eq_some_iff.2 (.inl ⟨s, s, rfl, rfl, compare_eq_iff_eq.2 rfl⟩)
  · exact compare_eq_some_iff.2 (.inr ⟨x, x, hx, hx, compare_eq_iff_eq.2 rfl⟩)

theorem atMost_iff :
    a.atMost b = true ↔
      (∃ s t, a = text s ∧ b = text t ∧ s ≤ t) ∨
        ∃ x y, a.place? = some x ∧ b.place? = some y ∧ x ≤ y := by
  rw [atMost, Bool.or_eq_true, beq_iff_eq, beq_iff_eq, compare_eq_some_iff, compare_eq_some_iff]
  simp only [compare_lt_iff_lt, compare_eq_iff_eq, le_iff_lt_or_eq]
  grind

theorem atLeast_eq_atMost (a b : Value) : a.atLeast b = b.atMost a := by
  rw [atLeast, atMost, compare_swap b a]
  rcases b.compare a with _ | _ | _ | _ <;> rfl

theorem atMost_trans (hab : a.atMost b = true) (hbc : b.atMost c = true) : a.atMost c = true := by
  rcases atMost_iff.1 hab with ⟨s, t, rfl, rfl, hst⟩ | ⟨x, y, hx, hy, hxy⟩
  · rcases atMost_iff.1 hbc with ⟨t', u, heq, rfl, htu⟩ | ⟨y, z, hy, -, -⟩
    · cases heq
      exact atMost_iff.2 (.inl ⟨s, u, rfl, rfl, hst.trans htu⟩)
    · cases hy
  · rcases atMost_iff.1 hbc with ⟨t, u, rfl, -, -⟩ | ⟨y', z, hy', hz, hyz⟩
    · cases hy
    · cases hy.symm.trans hy'
      exact atMost_iff.2 (.inr ⟨x, z, hx, hz, hxy.trans hyz⟩)

end Conform.Value
