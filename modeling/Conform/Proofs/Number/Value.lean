import Conform.Proofs.Number.Shortest

namespace Conform.Decimal

/-- The number that a decimal stands for. -/
def value (d : Decimal) : ℚ := d.unscaled * 10 ^ (-d.scale)

variable {a b : Decimal}

theorem value_ofInt (n : ℤ) : (ofInt n).value = n := by
  rw [value, ofInt, neg_zero, zpow_zero, mul_one]

theorem abs_value (a : Decimal) : |a.value| = a.unscaled.natAbs * 10 ^ (-a.scale) := by
  have hpower : (0 : ℚ) < 10 ^ (-a.scale) := by positivity
  rw [value, abs_mul, abs_of_pos hpower, Nat.cast_natAbs, Int.cast_abs]

theorem value_eq_zero_iff : a.value = 0 ↔ a.unscaled = 0 := by
  have hpower : (10 : ℚ) ^ (-a.scale) ≠ 0 := by positivity
  rw [value, mul_eq_zero_iff_right hpower, Int.cast_eq_zero]

theorem value_pos_iff : 0 < a.value ↔ 0 < a.unscaled := by
  rw [value, mul_pos_iff_of_pos_right (by positivity), Int.cast_pos]

theorem value_neg_iff : a.value < 0 ↔ a.unscaled < 0 := by
  rw [value, ← not_le, mul_nonneg_iff_of_pos_right (by positivity), not_le, Int.cast_lt_zero]

theorem lt_of_sign_lt (h : a.unscaled.sign < b.unscaled.sign) : a.value < b.value := by
  by_cases ha : a.unscaled < 0
  · have hb : ¬ b.unscaled < 0 := by
      intro hb
      rw [Int.sign_eq_neg_one_of_neg ha, Int.sign_eq_neg_one_of_neg hb] at h
      exact lt_irrefl _ h
    exact (value_neg_iff.2 ha).trans_le (not_lt.1 (mt value_neg_iff.1 hb))
  · have hb : 0 < b.unscaled := by
      have hle : 0 ≤ a.unscaled.sign := Int.sign_nonneg_iff.2 (not_lt.1 ha)
      exact Int.sign_pos_iff.1 (hle.trans_lt h)
    have ha' : ¬ 0 < a.unscaled := by
      intro ha'
      rw [Int.sign_eq_one_of_pos ha', Int.sign_eq_one_of_pos hb] at h
      exact lt_irrefl _ h
    exact (not_lt.1 (mt value_pos_iff.1 ha')).trans_lt (value_pos_iff.2 hb)

/-- The magnitude says between which powers of ten a number lies. -/
theorem lt_magnitude (a : Decimal) : |a.value| < 10 ^ a.magnitude := by
  rw [abs_value, magnitude, sub_eq_add_neg, zpow_add₀ (by norm_num)]
  gcongr
  exact Binary64.zpow_lt_digitCount _

theorem magnitude_le (h : a.unscaled ≠ 0) : 10 ^ (a.magnitude - 1) ≤ |a.value| := by
  have hsum : a.magnitude - 1 = (digitCount a.unscaled.natAbs : ℤ) - 1 + -a.scale := by
    rw [magnitude]
    ring
  rw [abs_value, hsum, zpow_add₀ (by norm_num)]
  gcongr
  exact Binary64.zpow_digitCount_le (Int.natAbs_ne_zero.2 h)

theorem abs_lt_of_magnitude_lt (hb : b.unscaled ≠ 0) (h : a.magnitude < b.magnitude) :
    |a.value| < |b.value| := by
  have hle : (10 : ℚ) ^ a.magnitude ≤ 10 ^ (b.magnitude - 1) :=
    zpow_le_zpow_right₀ (by norm_num) (by omega)
  exact (lt_magnitude a).trans_le (hle.trans (magnitude_le hb))

theorem cast_aligned {s : ℤ} (h : a.scale ≤ s) :
    ((a.unscaled * Nat.pow 10 (s - a.scale).toNat : ℤ) : ℚ) = a.value * 10 ^ s := by
  have hsum : -a.scale + s = ((s - a.scale).toNat : ℤ) := by omega
  rw [value, mul_assoc, ← zpow_add₀ (by norm_num), hsum, zpow_natCast]
  simp

theorem compare_aligned (a b : Decimal) :
    Ord.compare (aligned a b).1 (aligned a b).2 = Ord.compare a.value b.value := by
  have hpower : (0 : ℚ) < 10 ^ max a.scale b.scale := by positivity
  rw [aligned, ← cmp_eq_compare, ← (Int.cast_strictMono (R := ℚ)).cmp_map_eq,
    cast_aligned (le_max_left ..), cast_aligned (le_max_right ..), cmp_mul_pos_right hpower,
    cmp_eq_compare]

theorem compare_sign (h : a.unscaled.sign ≠ b.unscaled.sign ∨ a.unscaled.sign = 0) :
    Ord.compare a.unscaled.sign b.unscaled.sign = Ord.compare a.value b.value := by
  rcases lt_trichotomy a.unscaled.sign b.unscaled.sign with hlt | heq | hgt
  · rw [compare_lt_iff_lt.2 hlt, compare_lt_iff_lt.2 (lt_of_sign_lt hlt)]
  · have ha : a.unscaled.sign = 0 := h.resolve_left (not_not.2 heq)
    have hzero : a.value = b.value := by
      rw [value_eq_zero_iff.2 (Int.sign_eq_zero_iff_zero.1 ha),
        value_eq_zero_iff.2 (Int.sign_eq_zero_iff_zero.1 (heq ▸ ha))]
    rw [compare_eq_iff_eq.2 heq, compare_eq_iff_eq.2 hzero]
  · rw [compare_gt_iff_gt.2 hgt, compare_gt_iff_gt.2 (lt_of_sign_lt hgt)]

theorem compare_magnitude (ha : a.unscaled ≠ 0) (hb : b.unscaled ≠ 0)
    (h : a.magnitude ≠ b.magnitude) :
    Ord.compare a.magnitude b.magnitude = Ord.compare |a.value| |b.value| := by
  rcases lt_or_gt_of_ne h with hlt | hgt
  · rw [compare_lt_iff_lt.2 hlt, compare_lt_iff_lt.2 (abs_lt_of_magnitude_lt hb hlt)]
  · rw [compare_gt_iff_gt.2 hgt, compare_gt_iff_gt.2 (abs_lt_of_magnitude_lt ha hgt)]

theorem compare_abs_value (h : a.unscaled.sign = b.unscaled.sign) :
    (if a.unscaled.sign < 0 then (Ord.compare |a.value| |b.value|).swap
      else Ord.compare |a.value| |b.value|) = Ord.compare a.value b.value := by
  by_cases hneg : a.unscaled.sign < 0
  · have ha : a.value < 0 := value_neg_iff.2 (Int.sign_neg_iff.1 hneg)
    have hb : b.value < 0 := value_neg_iff.2 (Int.sign_neg_iff.1 (h ▸ hneg))
    have hanti : StrictAnti fun x : ℚ => -x := fun _ _ => neg_lt_neg
    rw [if_pos hneg, abs_of_neg ha, abs_of_neg hb, ← Std.OrientedOrd.eq_swap, ← cmp_eq_compare,
      ← cmp_eq_compare]
    exact hanti.cmp_map_eq b.value a.value
  · have ha : ¬ a.value < 0 := fun ha => hneg (Int.sign_neg_iff.2 (value_neg_iff.1 ha))
    have hb : ¬ b.value < 0 := fun hb => hneg (h ▸ Int.sign_neg_iff.2 (value_neg_iff.1 hb))
    rw [if_neg hneg, abs_of_nonneg (not_lt.1 ha), abs_of_nonneg (not_lt.1 hb)]

/-- The order of decimals is that of the numbers that they stand for. -/
theorem compare_eq (a b : Decimal) : a.compare b = Ord.compare a.value b.value := by
  rw [compare]
  dsimp only
  by_cases hsign : a.unscaled.sign ≠ b.unscaled.sign ∨ a.unscaled.sign = 0
  · rw [if_pos hsign, compare_sign hsign]
  · rw [if_neg hsign]
    rw [not_or, not_not, Int.sign_eq_zero_iff_zero] at hsign
    obtain ⟨hsame, ha⟩ := hsign
    have hb : b.unscaled ≠ 0 := by
      rw [ne_eq, ← Int.sign_eq_zero_iff_zero, ← hsame, Int.sign_eq_zero_iff_zero]
      exact ha
    by_cases hmagnitude : a.magnitude = b.magnitude
    · rw [if_neg (not_not.2 hmagnitude), compare_aligned]
    · rw [if_pos hmagnitude, compare_magnitude ha hb hmagnitude, compare_abs_value hsame]

theorem same_iff : a.same b = true ↔ a.value = b.value := by
  rw [same, beq_iff_eq, compare_eq, compare_eq_iff_eq]

end Conform.Decimal

namespace Conform.Binary64

theorem value_of_toDecimal? {negative : Bool} {e : Fin 2047} {f : Fraction} {d : Decimal}
    (h : (finite negative e f).toDecimal? = some d) :
    d.value = if negative then -Shortest.value (shortestDigits e f)
      else Shortest.value (shortestDigits e f) := by
  have hvalue (n : ℕ) (place : ℤ) :
      ((n * Nat.pow 10 place.toNat : ℤ) : ℚ) * 10 ^ (-((-place).toNat : ℤ)) =
        Shortest.value (n, place) := by
    have hsum : (place.toNat : ℤ) + -((-place).toNat : ℤ) = place := by omega
    rw [Shortest.value, Nat.pow_eq, Nat.cast_pow, Int.cast_mul, Int.cast_natCast, Int.cast_pow,
      mul_assoc, ← zpow_natCast, Int.cast_natCast, Nat.cast_ofNat, ← zpow_add₀ (by norm_num), hsum]
  rw [toDecimal?, Option.some_inj] at h
  rw [← h, Decimal.value, ← hvalue]
  cases negative
  · rfl
  · simp only [if_true, Int.cast_neg, neg_mul]

theorem abs_value_of_toDecimal? {negative : Bool} {e : Fin 2047} {f : Fraction} {d : Decimal}
    (h : (finite negative e f).toDecimal? = some d) :
    |d.value| = Shortest.value (shortestDigits e f) := by
  have hnonneg : 0 ≤ Shortest.value (shortestDigits e f) := by
    rw [Shortest.value]
    positivity
  rw [value_of_toDecimal? h]
  split
  next => rw [abs_neg, abs_of_nonneg hnonneg]
  next => rw [abs_of_nonneg hnonneg]

theorem isFinite_iff {x : Binary64} : x.isFinite = true ↔ ∃ d, x.toDecimal? = some d := by
  cases x <;> simp [isFinite, toDecimal?]

end Conform.Binary64

namespace Conform.Decimal

/-- The double that a decimal is read as. -/
def nearest (d : Decimal) : Binary64 :=
  Binary64.ofDigits (decide (d.unscaled < 0)) d.unscaled.natAbs (-d.scale)

variable {d m : Decimal} {e : Fin 2047} {f : Binary64.Fraction}

theorem value_eq_abs (d : Decimal) :
    d.value = if decide (d.unscaled < 0) then -|d.value| else |d.value| := by
  by_cases hneg : d.unscaled < 0
  · rw [if_pos (decide_eq_true hneg), abs_of_neg (value_neg_iff.2 hneg), neg_neg]
  · have hge : 0 ≤ d.value := not_lt.1 (mt value_neg_iff.1 hneg)
    rw [if_neg (by simpa using hneg), abs_of_nonneg hge]

/-- A decimal with the shortest digits of a double, its sign apart, is read as that double. -/
theorem nearest_of_abs_value (hd : d.unscaled ≠ 0)
    (h : |d.value| = Shortest.value (Binary64.shortestDigits e f)) :
    d.nearest = .finite (decide (d.unscaled < 0)) e f := by
  have hs : Binary64.significand e f ≠ 0 := by
    intro hs
    rw [Binary64.shortestDigits, if_pos hs, Shortest.value] at h
    simp only [Nat.cast_zero, zero_mul, abs_eq_zero, value_eq_zero_iff] at h
    exact hd h
  apply Binary64.ofDigits_of_holds _ hs
  rw [← abs_value, h]
  exact Binary64.holds_shortestDigits hs

/-- The nearest double has the number of a decimal if any double has. -/
theorem nearest_of_same {x : Binary64} (hd : d.unscaled ≠ 0) (hx : x.toDecimal? = some m)
    (h : m.same d = true) : ∃ n, d.nearest.toDecimal? = some n ∧ n.same d = true := by
  rw [same_iff] at h
  cases x with
  | nan => cases hx
  | infinite => cases hx
  | finite negative e f =>
    have habs : |d.value| = Shortest.value (Binary64.shortestDigits e f) := by
      rw [← h, Binary64.abs_value_of_toDecimal? hx]
    have hnearest := nearest_of_abs_value hd habs
    obtain ⟨n, hn⟩ := Binary64.isFinite_iff.1 (congrArg Binary64.isFinite hnearest)
    refine ⟨n, hn, ?_⟩
    rw [hnearest] at hn
    rw [same_iff, Binary64.value_of_toDecimal? hn, ← habs, ← value_eq_abs]

end Conform.Decimal

namespace Conform.Binary64

variable {e : Fin 2047} {f : Fraction} {x y : Binary64} {a b : Decimal}

theorem value_shortestDigits_eq_zero_iff :
    Shortest.value (shortestDigits e f) = 0 ↔ significand e f = 0 := by
  constructor
  · intro hvalue
    by_contra hs
    have hle := zpow_le_of_holds hs (holds_shortestDigits hs)
    have hpos : (0 : ℚ) < 2 ^ (-1075 : ℤ) := by positivity
    rw [hvalue] at hle
    exact absurd hpos (not_lt.2 hle)
  · intro hs
    rw [shortestDigits, if_pos hs, Shortest.value, Nat.cast_zero, zero_mul]

theorem negative_eq_of_value {v : ℚ} (hv : v ≠ 0) {n m : Bool}
    (h : (if n then -v else v) = if m then -v else v) : n = m := by
  cases n with
  | true =>
    cases m with
    | true => rfl
    | false => exact absurd (neg_eq_self.1 h) hv
  | false =>
    cases m with
    | true => exact absurd (self_eq_neg.1 h) hv
    | false => rfl

theorem same_iff_value (hx : x.toDecimal? = some a) (hy : y.toDecimal? = some b) :
    x.same y = true ↔ a.value = b.value := by
  cases x with
  | nan => cases hx
  | infinite negative => cases hx
  | finite n e f =>
    cases y with
    | nan => cases hy
    | infinite negative => cases hy
    | finite m e' f' =>
      have ha := value_of_toDecimal? hx
      have hb := value_of_toDecimal? hy
      have habs := abs_value_of_toDecimal? hx
      rw [same, Bool.and_eq_true, Bool.and_eq_true, beq_iff_eq, beq_iff_eq, Bool.or_eq_true,
        beq_iff_eq, beq_iff_eq, ← value_shortestDigits_eq_zero_iff]
      constructor
      · rintro ⟨⟨rfl, rfl⟩, rfl | hzero⟩
        · rw [ha, hb]
        · rw [ha, hb, hzero, neg_zero, ite_self, ite_self]
      · intro h
        have hdigits :
            Shortest.value (shortestDigits e f) = Shortest.value (shortestDigits e' f') := by
          rw [← habs, ← abs_value_of_toDecimal? hy, h]
        by_cases hzero : Shortest.value (shortestDigits e f) = 0
        · have hzero' := hdigits ▸ hzero
          obtain ⟨rfl, rfl⟩ := eq_zero_of_significand (value_shortestDigits_eq_zero_iff.1 hzero)
          obtain ⟨rfl, rfl⟩ := eq_zero_of_significand (value_shortestDigits_eq_zero_iff.1 hzero')
          exact ⟨⟨rfl, rfl⟩, .inr hzero⟩
        · -- Both doubles are the one that the decimal is read as.
          have hunscaled : a.unscaled ≠ 0 := by
            rwa [← habs, abs_eq_zero, Decimal.value_eq_zero_iff] at hzero
          have hnearest := Decimal.nearest_of_abs_value hunscaled habs
          have hnearest' := Decimal.nearest_of_abs_value hunscaled (habs.trans hdigits)
          obtain ⟨-, rfl, rfl⟩ := finite.inj (hnearest.symm.trans hnearest')
          rw [ha, hb] at h
          exact ⟨⟨rfl, rfl⟩, .inl (negative_eq_of_value hzero h)⟩

end Conform.Binary64
