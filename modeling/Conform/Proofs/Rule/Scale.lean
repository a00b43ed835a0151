import Mathlib.Order.Bounds.Basic
import Conform.Proofs.Value.Equality
import Conform.Rule

namespace Conform

namespace Decimal

variable {d : Decimal} {m : ℕ}

/-- The number has no more than so many fractional digits: times this power of ten it is an
integer. -/
def IsIntegerAt (d : Decimal) (n : ℕ) : Prop := ∃ k : ℤ, d.value * 10 ^ n = k

theorem significantPlaces_le_iff (places m : ℕ) (n : ℤ) :
    significantPlaces places n ≤ m ↔ (10 : ℤ) ^ (places - m) ∣ n := by
  induction places generalizing n with
  | zero => simp [significantPlaces]
  | succ places ih =>
    rw [significantPlaces]
    split
    next hlast =>
      obtain ⟨k, rfl⟩ := Int.dvd_of_emod_eq_zero hlast
      rw [Int.mul_ediv_cancel_left _ (by decide), ih]
      by_cases hm : m ≤ places
      · rw [Nat.succ_sub hm, pow_succ', mul_dvd_mul_iff_left (by decide)]
      · rw [Nat.sub_eq_zero_of_le (by omega), Nat.sub_eq_zero_of_le (by omega), pow_zero]
        exact iff_of_true (one_dvd k) (one_dvd _)
    next hlast =>
      by_cases hm : places + 1 ≤ m
      · rw [Nat.sub_eq_zero_of_le hm, pow_zero]
        exact iff_of_true hm (one_dvd n)
      · refine iff_of_false hm fun hdvd => hlast (Int.emod_eq_zero_of_dvd ?_)
        exact (dvd_pow_self 10 (by omega)).trans hdvd

theorem isIntegerAt_iff : d.IsIntegerAt m ↔ (10 : ℤ) ^ (d.scale.toNat - m) ∣ d.unscaled := by
  have hsum : -d.scale + m = ((m - d.scale).toNat : ℤ) - (d.scale.toNat - m : ℕ) := by omega
  have hvalue : d.value * 10 ^ m =
      d.unscaled * 10 ^ (m - d.scale).toNat / 10 ^ (d.scale.toNat - m) := by
    rw [value, mul_assoc, ← zpow_natCast, ← zpow_add₀ (by norm_num), hsum, zpow_sub₀ (by norm_num),
      zpow_natCast, zpow_natCast, mul_div_assoc]
  rw [IsIntegerAt, hvalue]
  rcases Nat.lt_or_ge m d.scale.toNat with hm | hm
  · have hzero : (m - d.scale).toNat = 0 := by omega
    rw [hzero, pow_zero, mul_one]
    constructor
    · rintro ⟨k, hk⟩
      rw [div_eq_iff (by positivity)] at hk
      exact ⟨k, by exact_mod_cast hk.trans (mul_comm _ _)⟩
    · rintro ⟨k, hk⟩
      refine ⟨k, ?_⟩
      rw [hk, div_eq_iff (by positivity), mul_comm]
      exact_mod_cast rfl
  · rw [Nat.sub_eq_zero_of_le hm, pow_zero, pow_zero, div_one]
    exact iff_of_true ⟨d.unscaled * 10 ^ (m - d.scale).toNat, by push_cast; rfl⟩ (one_dvd _)

theorem fractionDigits_le_iff : d.fractionDigits ≤ m ↔ d.IsIntegerAt m := by
  rw [isIntegerAt_iff, fractionDigits, ← significantPlaces_le_iff]
  split
  next h =>
    rw [h, significantPlaces_le_iff]
    exact iff_of_true (Nat.zero_le m) (dvd_zero _)
  next => rfl

theorem isLeast_fractionDigits (d : Decimal) : IsLeast {n | d.IsIntegerAt n} d.fractionDigits :=
  ⟨fractionDigits_le_iff.1 le_rfl, fun _ hn => fractionDigits_le_iff.2 hn⟩

theorem fractionDigits_eq_of_value_eq {d' : Decimal} (h : d.value = d'.value) :
    d.fractionDigits = d'.fractionDigits := by
  have hleast := isLeast_fractionDigits d'
  simp only [IsIntegerAt, ← h] at hleast
  exact (isLeast_fractionDigits d).unique hleast

end Decimal

namespace Value

variable {v w : Value} {d : Decimal}

/-- Numbers that are not infinite. -/
def IsFinite : Value → Prop
  | integer _ | decimal _ => True
  | double x => x.isFinite = true
  | _ => False

theorem exists_toDecimal? (h : v.IsFinite) : ∃ d, v.toDecimal? = some d := by
  cases v with
  | integer n => exact ⟨_, rfl⟩
  | double x => exact Binary64.isFinite_iff.1 h
  | decimal d => exact ⟨d, rfl⟩
  | _ => exact h.elim

/-- What stands where a decimal does is a finite number with the value of this decimal. -/
theorem exists_toDecimal?_of_place? (h : v.place? = some (placeOf d)) :
    ∃ d', v.toDecimal? = some d' ∧ d'.value = d.value := by
  cases hv : v.infinity? with
  | some o =>
    rcases place?_of_infinity? hv with ⟨-, hplace⟩ | ⟨-, hplace⟩
    · exact absurd (Option.some.inj (hplace.symm.trans h)) (bot_lt_placeOf d).ne
    · exact absurd (Option.some.inj (hplace.symm.trans h)) (placeOf_lt_top d).ne'
  | none =>
    rw [place?_of_finite hv, Option.map_eq_some_iff] at h
    obtain ⟨d', hd', hplace⟩ := h
    exact ⟨d', hd', placeOf_inj.1 hplace⟩

theorem fractionDigits?_eq_of_same (h : v.same w = true) (hv : v.toDecimal? = some d) :
    w.fractionDigits? = v.fractionDigits? := by
  have hplace := place?_of_toDecimal? hv
  obtain ⟨p, hvp, hwp⟩ := (same_number (isNumeric_of_place? hplace)).1 h
  cases hplace.symm.trans hvp
  obtain ⟨d', hw, hvalue⟩ := exists_toDecimal?_of_place? hwp
  rw [fractionDigits?, fractionDigits?, hv, hw, Option.map_some, Option.map_some,
    Decimal.fractionDigits_eq_of_value_eq hvalue]

end Value

namespace Rule

variable {v w : Value} {n : Int64}

theorem check_scale {digits : ℕ} (hv : v.fractionDigits? = some digits) (hn : 0 ≤ n.toInt)
    (config : Config) (key : String) :
    scale.check (.integer n) ⟨config, key, v⟩ = decide (digits ≤ n.toInt.toNat) := by
  simp only [check, hv, Bounds.size?, if_pos hn]

/-- Every finite number has the least number of fractional digits with which it is an integer times
that power of ten, and so has all that is the same as it. The rule lets it pass exactly if it is an
integer times the power of ten that is expected. -/
theorem scale_is_least (h : v.IsFinite) :
    ∃ d digits, v.toDecimal? = some d ∧ v.fractionDigits? = some digits ∧
      IsLeast {n | d.IsIntegerAt n} digits ∧
      (∀ w, v.same w = true → w.fractionDigits? = some digits) ∧
      ∀ n : Int64, 0 ≤ n.toInt → scale.accepts (.integer n) = true ∧
        ∀ config key, (scale.check (.integer n) ⟨config, key, v⟩ = true ↔
          d.IsIntegerAt n.toInt.toNat) := by
  obtain ⟨d, hd⟩ := Value.exists_toDecimal? h
  have hdigits : v.fractionDigits? = some d.fractionDigits := by
    rw [Value.fractionDigits?, hd, Option.map_some]
  refine ⟨d, d.fractionDigits, hd, hdigits, d.isLeast_fractionDigits, ?_, ?_⟩
  · intro w hw
    rw [Value.fractionDigits?_eq_of_same hw hd, hdigits]
  · intro n hn
    refine ⟨?_, fun config key => ?_⟩
    · rw [accepts, Bounds.size?, if_pos hn]
      rfl
    · rw [check_scale hdigits hn, decide_eq_true_iff, Decimal.fractionDigits_le_iff]

def padded : Value := .decimal ⟨1500, 3⟩

theorem scale_is_least_padded :
    padded.IsFinite ∧ padded.fractionDigits? = some 1 ∧
      (Value.double (.encode false 0x18000000000000 (-52))).fractionDigits? = some 1 ∧
      scale.check (.integer 1) ⟨∅, "ratio", padded⟩ = true ∧
      scale.check (.integer 0) ⟨∅, "ratio", padded⟩ = false := by
  have h : padded.IsFinite := trivial
  obtain ⟨d, digits, hd, hdigits, hleast, hsame, hrule⟩ := scale_is_least h
  cases hd
  have hone : padded.fractionDigits? = some 1 := rfl
  cases hdigits.symm.trans hone
  refine ⟨h, hone, hsame _ rfl, ?_, ?_⟩
  · exact ((hrule 1 (by decide)).2 ∅ "ratio").2 hleast.1
  · rw [← Bool.not_eq_true, (hrule 0 (by decide)).2]
    exact fun hzero => absurd (hleast.2 hzero) (by decide)

end Rule

end Conform
