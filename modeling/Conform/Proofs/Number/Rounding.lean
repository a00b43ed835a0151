import Mathlib.Algebra.Order.Field.Power
import Mathlib.Algebra.Order.Field.Rat
import Mathlib.Tactic.FieldSimp
import Mathlib.Tactic.GCongr
import Mathlib.Tactic.Linarith
import Mathlib.Tactic.NormNum
import Mathlib.Tactic.Positivity
import Mathlib.Tactic.Ring
import Conform.Number.Binary64

namespace Conform

section Scale

variable {num den b : ℕ}

theorem zpow_eq_div (x : ℚ) (k : ℤ) : x ^ k = x ^ k.toNat / x ^ (-k).toNat := by
  obtain ⟨n, rfl | rfl⟩ := k.eq_nat_or_neg
  · simp
  · simp

theorem scaled_div (num den : ℕ) (hb : 0 < b) (k : ℤ) :
    ((num * Nat.pow b (-k).toNat : ℕ) : ℚ) / (den * Nat.pow b k.toNat : ℕ) =
      num / den / (b : ℚ) ^ k := by
  have hcast : (b : ℚ) ≠ 0 := by exact_mod_cast hb.ne'
  rw [zpow_eq_div]
  simp only [Nat.pow_eq]
  push_cast
  field_simp

theorem scaled_lt_iff (hd : 0 < den) (hb : 0 < b) (k : ℤ) :
    num * Nat.pow b (-k).toNat < den * Nat.pow b k.toNat ↔
      (num / den : ℚ) < (b : ℚ) ^ k := by
  have hpow : (0 : ℚ) < (b : ℚ) ^ k := zpow_pos (by exact_mod_cast hb) k
  have hden : 0 < den * Nat.pow b k.toNat := Nat.mul_pos hd (Nat.pow_pos hb)
  rw [← div_lt_one hpow, ← scaled_div num den hb, div_lt_one (by exact_mod_cast hden)]
  exact Nat.cast_lt.symm

end Scale

namespace Shortest.Interval

/-- A number lies between the midpoints, or on one of them if the significand is even. -/
structure Holds (v : Interval) (r : ℚ) : Prop where
  low_le : v.low * (2 : ℚ) ^ (v.power - 2) ≤ r
  le_high : r ≤ v.high * (2 : ℚ) ^ (v.power - 2)
  inside : v.significand % 2 = 1 →
    v.low * (2 : ℚ) ^ (v.power - 2) ≠ r ∧ r ≠ v.high * (2 : ℚ) ^ (v.power - 2)

variable {v : Interval} {r : ℚ}

theorem quarter (power : ℤ) : (2 : ℚ) ^ (power - 2) = 2 ^ power / 4 := by
  rw [zpow_sub₀ (by norm_num)]
  norm_num

theorem low_cast (h : v.significand ≠ 0) :
    (v.low : ℚ) = 4 * v.significand - if v.leastOfPower then 1 else 2 := by
  rw [low, center]
  split
  · rw [Nat.cast_sub (by omega)]
    push_cast
    ring
  · rw [Nat.cast_sub (by omega)]
    push_cast
    ring

theorem high_cast : (v.high : ℚ) = 4 * v.significand + 2 := by
  rw [high, center]
  push_cast
  ring

theorem Holds.near_least (h : v.Holds r) (hs : v.significand ≠ 0) (hv : v.leastOfPower = true) :
    (v.significand : ℚ) - 1 / 4 ≤ r / 2 ^ v.power := by
  have hlow := h.low_le
  have hpower : (0 : ℚ) < 2 ^ v.power := by positivity
  rw [low_cast hs, if_pos hv, quarter] at hlow
  rw [le_div_iff₀ hpower]
  linarith

/-- In units of the last place, a number in the interval is at most half a unit away. -/
theorem Holds.near (h : v.Holds r) (hs : v.significand ≠ 0) :
    (v.significand : ℚ) - 1 / 2 ≤ r / 2 ^ v.power ∧ r / 2 ^ v.power ≤ v.significand + 1 / 2 ∧
      (v.significand % 2 = 1 → (v.significand : ℚ) - 1 / 2 ≠ r / 2 ^ v.power ∧
        r / 2 ^ v.power ≠ v.significand + 1 / 2) := by
  have hpower : (0 : ℚ) < 2 ^ v.power := by positivity
  have hhigh : r ≤ (4 * v.significand + 2) * (2 ^ v.power / 4) := by
    have hle := h.le_high
    rwa [high_cast, quarter] at hle
  have hodd : v.significand % 2 = 1 → r / 2 ^ v.power ≠ v.significand + 1 / 2 := by
    intro hm
    have hne := (h.inside hm).2
    rw [high_cast, quarter] at hne
    rw [ne_eq, div_eq_iff hpower.ne']
    intro heq
    exact hne (by linarith)
  have hupper : r / 2 ^ v.power ≤ v.significand + 1 / 2 := by
    rw [div_le_iff₀ hpower]
    linarith
  cases hv : v.leastOfPower with
  | true =>
    have hleast := h.near_least hs hv
    exact ⟨by linarith, hupper, fun hm => ⟨by linarith, hodd hm⟩⟩
  | false =>
    have hlow := h.low_le
    rw [low_cast hs, hv, quarter] at hlow
    have hlower : (v.significand : ℚ) - 1 / 2 ≤ r / 2 ^ v.power := by
      rw [le_div_iff₀ hpower]
      simp only [Bool.false_eq_true, if_false] at hlow
      linarith
    refine ⟨hlower, hupper, fun hm => ⟨?_, hodd hm⟩⟩
    have hne := (h.inside hm).1
    rw [low_cast hs, hv, quarter] at hne
    rw [ne_eq, eq_div_iff hpower.ne']
    intro heq
    apply hne
    simp only [Bool.false_eq_true, if_false]
    linarith

end Shortest.Interval

namespace Binary64

section RoundDiv

variable {num den m : ℕ}

theorem roundDiv_eq_of_le (hl : 2 * (m * den) ≤ 2 * num + den)
    (hu : 2 * num ≤ 2 * (m * den) + den)
    (ht : m % 2 = 1 → 2 * (m * den) ≠ 2 * num + den ∧ 2 * num ≠ 2 * (m * den) + den)
    (hd : 0 < den) : roundDiv num den = m := by
  have hdiv : num = num / den * den + num % den := by
    rw [Nat.mul_comm]
    exact (Nat.div_add_mod num den).symm
  have hmod : num % den < den := Nat.mod_lt num hd
  rw [roundDiv]
  generalize num / den = k at *
  generalize num % den = rest at *
  have hbelow : ¬ m < k := by
    intro h
    have := Nat.mul_le_mul_right den (Nat.succ_le_of_lt h)
    rw [Nat.succ_mul] at this
    omega
  have habove : ¬ k + 1 < m := by
    intro h
    have := Nat.mul_le_mul_right den (Nat.succ_le_of_lt h)
    rw [Nat.succ_mul, Nat.succ_mul] at this
    omega
  obtain rfl | rfl : m = k ∨ m = k + 1 := by omega
  · rw [if_pos]
    omega
  · have hsucc : (k + 1) * den = k * den + den := Nat.succ_mul k den
    rw [hsucc] at hl hu ht
    rw [if_neg]
    omega

theorem roundDiv_eq (hd : 0 < den) (hl : (m : ℚ) - 1 / 2 ≤ num / den)
    (hu : (num / den : ℚ) ≤ m + 1 / 2)
    (ht : m % 2 = 1 → (m : ℚ) - 1 / 2 ≠ num / den ∧ (num / den : ℚ) ≠ m + 1 / 2) :
    roundDiv num den = m := by
  have hden : (0 : ℚ) < den := by exact_mod_cast hd
  rw [le_div_iff₀ hden] at hl
  rw [div_le_iff₀ hden] at hu
  rw [ne_eq, ne_eq, eq_div_iff hden.ne', div_eq_iff hden.ne'] at ht
  apply roundDiv_eq_of_le _ _ _ hd
  · have : (2 * (m * den) : ℚ) ≤ 2 * num + den := by linarith
    exact_mod_cast this
  · have : (2 * num : ℚ) ≤ 2 * (m * den) + den := by linarith
    exact_mod_cast this
  · intro hm
    obtain ⟨hl', hu'⟩ := ht hm
    constructor
    · intro heq
      have : (2 * (m * den) : ℚ) = 2 * num + den := by exact_mod_cast heq
      exact hl' (by linarith)
    · intro heq
      have : (2 * num : ℚ) = 2 * (m * den) + den := by exact_mod_cast heq
      exact hu' (by linarith)

end RoundDiv

section Ratio

variable {num den : ℕ}

theorem log2_le (h : num ≠ 0) : (2 : ℚ) ^ (num.log2 : ℤ) ≤ num := by
  rw [zpow_natCast]
  exact_mod_cast Nat.log2_self_le h

theorem lt_log2 (num : ℕ) : (num : ℚ) < 2 ^ ((num.log2 : ℤ) + 1) := by
  have h : num < 2 ^ (num.log2 + 1) := Nat.lt_log2_self
  have hcast : (num : ℚ) < 2 ^ (num.log2 + 1) := by exact_mod_cast h
  rw [← zpow_natCast] at hcast
  exact_mod_cast hcast

theorem lead_spec (hn : num ≠ 0) (hd : den ≠ 0) :
    let guess : ℤ := (num.log2 : ℤ) - den.log2
    let lead :=
      if num * Nat.pow 2 (-guess).toNat < den * Nat.pow 2 guess.toNat then guess - 1 else guess
    (2 : ℚ) ^ lead ≤ num / den ∧ (num / den : ℚ) < 2 ^ (lead + 1) := by
  intro guess lead
  have hden : (0 : ℚ) < den := by exact_mod_cast Nat.pos_of_ne_zero hd
  have hnum : (0 : ℚ) < num := by exact_mod_cast Nat.pos_of_ne_zero hn
  have hless : num * Nat.pow 2 (-guess).toNat < den * Nat.pow 2 guess.toNat ↔
      (num / den : ℚ) < 2 ^ guess := by
    exact_mod_cast scaled_lt_iff (b := 2) (Nat.pos_of_ne_zero hd) (by decide) guess
  have htwo : (2 : ℚ) ≠ 0 := by norm_num
  have hlow : (2 : ℚ) ^ (guess - 1) ≤ num / den := by
    rw [le_div_iff₀ hden]
    calc (2 : ℚ) ^ (guess - 1) * den
        ≤ 2 ^ (guess - 1) * 2 ^ ((den.log2 : ℤ) + 1) := by
          gcongr
          exact (lt_log2 den).le
      _ = 2 ^ (num.log2 : ℤ) := by
          rw [← zpow_add₀ htwo]
          congr 1
          ring
      _ ≤ num := log2_le hn
  have hhigh : (num / den : ℚ) < 2 ^ (guess + 1) := by
    rw [div_lt_iff₀ hden]
    calc (num : ℚ) < 2 ^ ((num.log2 : ℤ) + 1) := lt_log2 num
      _ = 2 ^ (guess + 1) * 2 ^ (den.log2 : ℤ) := by
          rw [← zpow_add₀ htwo]
          congr 1
          ring
      _ ≤ 2 ^ (guess + 1) * den := by
          gcongr
          exact log2_le hd
  by_cases h : (num / den : ℚ) < 2 ^ guess
  · have hlead : lead = guess - 1 := if_pos (hless.2 h)
    rw [hlead, sub_add_cancel]
    exact ⟨hlow, h⟩
  · have hlead : lead = guess := if_neg fun hl => h (hless.1 hl)
    rw [hlead]
    exact ⟨not_lt.1 h, hhigh⟩

end Ratio

section Encode

variable (e : Fin 2047) (f : Fraction)

theorem significand_lt : significand e f < 2 * leadingBit := by
  have hf := f.isLt
  rw [significand, leadingBit]
  split <;> omega

theorem leadingBit_le_significand (h : e.val ≠ 0) : leadingBit ≤ significand e f := by
  rw [significand, if_neg h]
  omega

theorem encode_significand (negative : Bool) :
    encode negative (significand e f) (power e) = finite negative e f := by
  have hf := f.isLt
  rw [encode, significand]
  by_cases he : e.val = 0
  · rw [if_pos he, if_pos (by rw [leadingBit]; exact hf)]
    have hzero : e = 0 := Fin.ext he
    subst hzero
    congr 1
    exact Fin.ext (Nat.mod_eq_of_lt hf)
  · rw [if_neg he, if_neg (by omega)]
    have hpower : (power e + 1075).toNat = e.val := by
      rw [power]
      omega
    rw [dif_pos (hpower ▸ e.isLt), finite.injEq, Nat.add_sub_cancel_left]
    exact ⟨rfl, Fin.ext hpower, Fin.ext (Nat.mod_eq_of_lt hf)⟩

end Encode

section Nearest

variable {num den : ℕ} {lead : ℤ}

theorem ofRatio_eq (negative : Bool) (hn : num ≠ 0) (hd : den ≠ 0) (hl : (2 : ℚ) ^ lead ≤ num / den)
    (hu : (num / den : ℚ) < 2 ^ (lead + 1)) :
    ofRatio negative num den =
      let power := max (lead - 52) (-1074)
      let significand := roundDiv (num * Nat.pow 2 (-power).toNat) (den * Nat.pow 2 power.toNat)
      if significand = 2 * leadingBit then encode negative leadingBit (power + 1)
      else encode negative significand power := by
  obtain ⟨hl', hu'⟩ := lead_spec hn hd
  rw [ofRatio, if_neg hn]
  simp only at hl' hu' ⊢
  generalize (if num * Nat.pow 2 (-((num.log2 : ℤ) - den.log2)).toNat <
    den * Nat.pow 2 ((num.log2 : ℤ) - den.log2).toNat then (num.log2 : ℤ) - den.log2 - 1
    else (num.log2 : ℤ) - den.log2) = lead' at *
  have h : lead < lead' + 1 := (zpow_lt_zpow_iff_right₀ (by norm_num)).1 (hl.trans_lt hu')
  have h' : lead' < lead + 1 := (zpow_lt_zpow_iff_right₀ (by norm_num)).1 (hl'.trans_lt hu)
  obtain rfl : lead' = lead := by omega
  rfl

/-- The numbers read as a finite number. -/
def interval (e : Fin 2047) (f : Fraction) : Shortest.Interval where
  significand := significand e f
  power := power e
  leastOfPower := f.val = 0 && 1 < e.val

variable {e : Fin 2047} {f : Fraction}

/-- With the power of the number itself, rounding gives its significand. -/
theorem ofRatio_of_power (negative : Bool) (hn : num ≠ 0) (hd : den ≠ 0)
    (hl : (2 : ℚ) ^ lead ≤ num / den) (hu : (num / den : ℚ) < 2 ^ (lead + 1))
    (hp : max (lead - 52) (-1074) = power e) (hs : significand e f ≠ 0)
    (h : (interval e f).Holds (num / den)) : ofRatio negative num den = finite negative e f := by
  obtain ⟨hlow, hhigh, hodd⟩ := h.near hs
  rw [ofRatio_eq negative hn hd hl hu]
  simp only [hp]
  have hround : roundDiv (num * Nat.pow 2 (-power e).toNat) (den * Nat.pow 2 (power e).toNat) =
      significand e f := by
    apply roundDiv_eq
    · exact Nat.mul_pos (Nat.pos_of_ne_zero hd) (Nat.pow_pos (by decide))
    · rw [scaled_div num den (by decide)]
      exact hlow
    · rw [scaled_div num den (by decide)]
      exact hhigh
    · rw [scaled_div num den (by decide)]
      exact hodd
  rw [hround, if_neg (significand_lt e f).ne, encode_significand]

/-- Just below the least number with its power, rounding with the power below carries over. -/
theorem ofRatio_of_carry (negative : Bool) (hn : num ≠ 0) (hd : den ≠ 0)
    (hl : (2 : ℚ) ^ lead ≤ num / den) (hu : (num / den : ℚ) < 2 ^ (lead + 1))
    (hp : max (lead - 52) (-1074) = power e - 1) (hs : significand e f = leadingBit)
    (h : (leadingBit : ℚ) - 1 / 4 ≤ num / den / 2 ^ power e)
    (h' : (num / den / 2 ^ power e : ℚ) ≤ leadingBit) :
    ofRatio negative num den = finite negative e f := by
  have hhalf : (num / den / 2 ^ (power e - 1) : ℚ) = 2 * (num / den / 2 ^ power e) := by
    rw [zpow_sub_one₀ (by norm_num)]
    field_simp
  rw [ofRatio_eq negative hn hd hl hu]
  simp only [hp]
  have hround : roundDiv (num * Nat.pow 2 (-(power e - 1)).toNat)
      (den * Nat.pow 2 (power e - 1).toNat) = 2 * leadingBit := by
    apply roundDiv_eq
    · exact Nat.mul_pos (Nat.pos_of_ne_zero hd) (Nat.pow_pos (by decide))
    · rw [scaled_div num den (by decide)]
      push_cast
      linarith
    · rw [scaled_div num den (by decide)]
      push_cast
      linarith
    · intro hodd
      omega
  rw [if_pos hround, sub_add_cancel, ← hs, encode_significand]

theorem leadingBit_cast : (leadingBit : ℚ) = 2 ^ (52 : ℤ) := by
  norm_num [leadingBit]

theorem least_power (e : Fin 2047) : -1074 ≤ power e := by
  rw [power]
  omega

theorem lt_zpow_of_div_lt {r : ℚ} {power k : ℤ} (h : r / 2 ^ power < 2 ^ k) :
    r < 2 ^ (power + k) := by
  rw [div_lt_iff₀ (by positivity), mul_comm, ← zpow_add₀ (by norm_num)] at h
  exact h

theorem zpow_le_of_le_div {r : ℚ} {power k : ℤ} (h : 2 ^ k ≤ r / 2 ^ power) :
    2 ^ (power + k) ≤ r := by
  rw [le_div_iff₀ (by positivity), mul_comm, ← zpow_add₀ (by norm_num)] at h
  exact h

/-- No number read as a finite number leads with a higher power than its significand can. -/
theorem lt_of_holds (hs : significand e f ≠ 0) {r : ℚ} (h : (interval e f).Holds r) :
    r < 2 ^ (power e + 53) := by
  have hhigh : r / 2 ^ power e ≤ significand e f + 1 / 2 := (h.near hs).2.1
  have hlt : (significand e f : ℚ) + 1 ≤ 2 * leadingBit := by
    exact_mod_cast significand_lt e f
  have htop : (2 : ℚ) * leadingBit = 2 ^ (53 : ℤ) := by
    norm_num [leadingBit]
  exact lt_zpow_of_div_lt (by linarith)

/-- Below the range of its own power lie only numbers read as the least number with it. -/
theorem eq_leadingBit_of_lt (hs : significand e f ≠ 0) {r : ℚ} (h : (interval e f).Holds r)
    (hp : power e ≠ -1074) (hr : r / 2 ^ power e < leadingBit) :
    significand e f = leadingBit ∧ (leadingBit : ℚ) - 1 / 4 ≤ r / 2 ^ power e := by
  have hlow : (significand e f : ℚ) - 1 / 2 ≤ r / 2 ^ power e := (h.near hs).1
  have he : 1 < e.val := by
    rw [power] at hp
    omega
  have hsig : significand e f = leadingBit := by
    have hge := leadingBit_le_significand e f (by omega)
    have hlt : (significand e f : ℚ) < leadingBit + 1 := by linarith
    have hnat : significand e f < leadingBit + 1 := by exact_mod_cast hlt
    omega
  have hf : f.val = 0 := by
    rw [significand, if_neg (by omega)] at hsig
    omega
  have hnear : (significand e f : ℚ) - 1 / 4 ≤ r / 2 ^ power e :=
    h.near_least hs (by simp [interval, hf, he])
  rw [hsig] at hnear
  exact ⟨hsig, hnear⟩

theorem ofRatio_of_holds (negative : Bool) (hn : num ≠ 0) (hd : den ≠ 0)
    (hs : significand e f ≠ 0) (h : (interval e f).Holds (num / den)) :
    ofRatio negative num den = finite negative e f := by
  obtain ⟨lead, hl, hu⟩ : ∃ lead : ℤ,
      (2 : ℚ) ^ lead ≤ num / den ∧ (num / den : ℚ) < 2 ^ (lead + 1) :=
    ⟨_, lead_spec hn hd⟩
  have hleast := least_power e
  have htop : lead < power e + 53 :=
    (zpow_lt_zpow_iff_right₀ (by norm_num)).1 (hl.trans_lt (lt_of_holds hs h))
  by_cases hbig : (2 : ℚ) ^ (power e + 52) ≤ num / den
  · have hlead : power e + 52 < lead + 1 :=
      (zpow_lt_zpow_iff_right₀ (by norm_num)).1 (hbig.trans_lt hu)
    exact ofRatio_of_power negative hn hd hl hu (by omega) hs h
  · by_cases hmin : power e = -1074
    · exact ofRatio_of_power negative hn hd hl hu (by omega) hs h
    · have hsmall : (num / den / 2 ^ power e : ℚ) < leadingBit := by
        rw [leadingBit_cast]
        exact not_le.1 fun hle => hbig (zpow_le_of_le_div hle)
      obtain ⟨hsig, hnear⟩ := eq_leadingBit_of_lt hs h hmin hsmall
      have hhalf : (2 : ℚ) ^ (51 : ℤ) ≤ leadingBit - 1 / 4 := by
        norm_num [leadingBit]
      have hlead : power e + 51 < lead + 1 :=
        (zpow_lt_zpow_iff_right₀ (by norm_num)).1
          ((zpow_le_of_le_div (hhalf.trans hnear)).trans_lt hu)
      have hlead' : lead < power e + 52 :=
        (zpow_lt_zpow_iff_right₀ (by norm_num)).1 (hl.trans_lt (not_le.1 hbig))
      exact ofRatio_of_carry negative hn hd hl hu (by omega) hsig hnear hsmall.le

end Nearest

section Digits

variable {e : Fin 2047} {f : Fraction} {n : ℕ} {place : ℤ}

theorem zpow_lt_digitCount (n : ℕ) : (n : ℚ) < 10 ^ (Decimal.digitCount n : ℤ) := by
  have h : n < 10 ^ Decimal.digitCount n :=
    (Nat.length_toDigits_le_iff (by decide) Nat.length_toDigits_pos).1 le_rfl
  rw [zpow_natCast]
  exact_mod_cast h

theorem zpow_digitCount_le (hn : n ≠ 0) : (10 : ℚ) ^ ((Decimal.digitCount n : ℤ) - 1) ≤ n := by
  have hpos : 0 < Decimal.digitCount n := Nat.length_toDigits_pos
  have h : 10 ^ (Decimal.digitCount n - 1) ≤ n := by
    by_cases hone : Decimal.digitCount n = 1
    · rw [hone]
      exact Nat.one_le_iff_ne_zero.2 hn
    · rw [← not_lt, ← Nat.length_toDigits_le_iff (by decide) (by omega)]
      change ¬ Decimal.digitCount n ≤ _
      omega
  rw [← Nat.cast_pred hpos, zpow_natCast]
  exact_mod_cast h

theorem smallest_scale : (10 : ℚ) ^ (-331 : ℤ) ≤ 2 ^ (-1075 : ℤ) := by
  have h : 2 ^ 1075 ≤ 10 ^ 331 := by decide +kernel
  rw [zpow_neg, zpow_neg, zpow_ofNat, zpow_ofNat]
  gcongr
  exact_mod_cast h

theorem largest_scale : (2 : ℚ) ^ (1024 : ℤ) ≤ 10 ^ (310 : ℤ) := by
  have h : 2 ^ 1024 ≤ 10 ^ 310 := by decide +kernel
  rw [zpow_ofNat, zpow_ofNat]
  exact_mod_cast h

theorem zpow_le_of_holds (hs : significand e f ≠ 0) {r : ℚ} (h : (interval e f).Holds r) :
    (2 : ℚ) ^ (-1075 : ℤ) ≤ r := by
  have hone : (1 : ℚ) ≤ significand e f := by exact_mod_cast Nat.one_le_iff_ne_zero.2 hs
  have hlow : (significand e f : ℚ) - 1 / 2 ≤ r / 2 ^ power e := (h.near hs).1
  have hhalf : (2 : ℚ) ^ (-1 : ℤ) ≤ r / 2 ^ power e := by
    norm_num
    linarith
  calc (2 : ℚ) ^ (-1075 : ℤ) ≤ 2 ^ (power e + -1) :=
        zpow_le_zpow_right₀ (by norm_num) (by linarith [least_power e])
    _ ≤ r := zpow_le_of_le_div hhalf

theorem lt_zpow_of_holds (hs : significand e f ≠ 0) {r : ℚ} (h : (interval e f).Holds r) :
    r < (2 : ℚ) ^ (1024 : ℤ) := by
  have hpower : power e + 53 ≤ 1024 := by
    have := e.isLt
    rw [power]
    omega
  exact (lt_of_holds hs h).trans_le (zpow_le_zpow_right₀ (by norm_num) hpower)

theorem ofDigits_of_holds (negative : Bool) (hs : significand e f ≠ 0)
    (h : (interval e f).Holds (n * 10 ^ place)) :
    ofDigits negative n place = finite negative e f := by
  have hlow := zpow_le_of_holds hs h
  have hhigh := lt_zpow_of_holds hs h
  have hn : n ≠ 0 := by
    rintro rfl
    have hpos : (0 : ℚ) < 2 ^ (-1075 : ℤ) := by positivity
    rw [Nat.cast_zero, zero_mul] at hlow
    linarith
  have hplace : (0 : ℚ) < 10 ^ place := by positivity
  have hten : (10 : ℚ) ≠ 0 := by norm_num
  have hsmall : ¬ (Decimal.digitCount n + place < -330) := by
    intro hlt
    have hr : (n : ℚ) * 10 ^ place < 10 ^ (-331 : ℤ) :=
      calc (n : ℚ) * 10 ^ place < 10 ^ (Decimal.digitCount n : ℤ) * 10 ^ place := by
            gcongr
            exact zpow_lt_digitCount n
        _ = 10 ^ ((Decimal.digitCount n : ℤ) + place) := (zpow_add₀ hten ..).symm
        _ ≤ 10 ^ (-331 : ℤ) := zpow_le_zpow_right₀ (by norm_num) (by omega)
    exact absurd (hlow.trans_lt hr) (not_lt.2 smallest_scale)
  have hlarge : ¬ (310 < (Decimal.digitCount n : ℤ) + place) := by
    intro hlt
    have hr : (10 : ℚ) ^ (310 : ℤ) ≤ n * 10 ^ place :=
      calc (10 : ℚ) ^ (310 : ℤ) ≤ 10 ^ ((Decimal.digitCount n : ℤ) - 1 + place) :=
            zpow_le_zpow_right₀ (by norm_num) (by omega)
        _ = 10 ^ ((Decimal.digitCount n : ℤ) - 1) * 10 ^ place := zpow_add₀ hten ..
        _ ≤ n * 10 ^ place := by
            gcongr
            exact zpow_digitCount_le hn
    exact absurd (hr.trans_lt hhigh) (not_lt.2 largest_scale)
  rw [ofDigits]
  simp only [hn, hsmall, hlarge, or_self, if_false]
  apply ofRatio_of_holds negative _ _ hs
  · rw [zpow_eq_div] at h
    simp only [Nat.pow_eq]
    push_cast
    rwa [mul_div_assoc]
  · exact Nat.mul_ne_zero hn (Nat.pow_pos (by decide)).ne'
  · exact (Nat.pow_pos (by decide)).ne'

theorem eq_zero_of_significand (hs : significand e f = 0) : e = 0 ∧ f = 0 := by
  rw [significand] at hs
  split at hs
  next he => exact ⟨Fin.ext he, Fin.ext hs⟩
  next => simp [leadingBit] at hs

theorem ofDigits_zero (negative : Bool) (place : ℤ) (hs : significand e f = 0) :
    ofDigits negative 0 place = finite negative e f := by
  obtain ⟨rfl, rfl⟩ := eq_zero_of_significand hs
  rw [ofDigits]
  simp [zero]

end Digits

end Binary64

end Conform
