import Conform.Proofs.Number.Literal
import Conform.Proofs.Number.Rounding

namespace Conform.Shortest

def value (d : ℕ × ℤ) : ℚ := d.1 * 10 ^ d.2

theorem value_dropZeros (limit : ℕ) (d : ℕ × ℤ) : value (dropZeros limit d) = value d := by
  induction limit generalizing d with
  | zero => rfl
  | succ limit ih =>
    obtain ⟨n, place⟩ := d
    rw [dropZeros]
    split
    next h =>
      have hn : n = n / 10 * 10 := by omega
      have hcast : (n : ℚ) = (n / 10 : ℕ) * 10 := by exact_mod_cast hn
      rw [ih, value, value, hcast, zpow_add_one₀ (by norm_num)]
      ring
    next => rfl

namespace Interval

variable {v : Interval} {place : ℤ} {n x : ℕ}

theorem denominator_pos (v : Interval) (place : ℤ) : 0 < v.denominator place :=
  Nat.mul_pos (Nat.pow_pos (by decide)) (Nat.pow_pos (by decide))

theorem numerator_div (v : Interval) (place : ℤ) (x : ℕ) :
    (v.numerator place x / v.denominator place : ℚ) = x * 2 ^ (v.power - 2) / 10 ^ place := by
  rw [numerator, denominator, zpow_eq_div 2, zpow_eq_div 10, neg_sub]
  simp only [Nat.pow_eq]
  push_cast
  field_simp

theorem numerator_le_iff :
    v.numerator place x ≤ n * v.denominator place ↔
      x * (2 : ℚ) ^ (v.power - 2) ≤ n * 10 ^ place := by
  have hden : (0 : ℚ) < v.denominator place := by exact_mod_cast v.denominator_pos place
  rw [← div_le_iff₀ (by positivity), ← numerator_div, div_le_iff₀ hden]
  exact_mod_cast Iff.rfl

theorem le_numerator_iff :
    n * v.denominator place ≤ v.numerator place x ↔
      n * (10 : ℚ) ^ place ≤ x * 2 ^ (v.power - 2) := by
  have hden : (0 : ℚ) < v.denominator place := by exact_mod_cast v.denominator_pos place
  rw [← le_div_iff₀ (by positivity), ← numerator_div, le_div_iff₀ hden]
  exact_mod_cast Iff.rfl

theorem holds_of_contains (h : v.contains place n = true) : v.Holds (value (n, place)) := by
  rw [contains] at h
  split at h
  next heven =>
    rw [Bool.and_eq_true, decide_eq_true_eq, decide_eq_true_eq, numerator_le_iff,
      le_numerator_iff] at h
    exact ⟨h.1, h.2, fun hodd => by omega⟩
  next =>
    rw [Bool.and_eq_true, decide_eq_true_eq, decide_eq_true_eq, ← not_le, ← not_le,
      numerator_le_iff, le_numerator_iff, not_le, not_le] at h
    exact ⟨h.1.le, h.2.le, fun _ => ⟨h.1.ne, h.2.ne⟩⟩

theorem contains_of_onGrid? (h : v.onGrid? place = some n) : v.contains place n = true := by
  rw [onGrid?] at h
  split at h
  next hb ha =>
    rw [Option.some_inj] at h
    split at h
    next => exact h ▸ hb
    next => exact h ▸ ha
  next hb _ => exact Option.some_inj.1 h ▸ hb
  next ha => exact Option.some_inj.1 h ▸ ha
  next => cases h

theorem holds_of_floor (hs : v.significand ≠ 0) (hp : (10 : ℚ) ^ place < 2 ^ (v.power - 2)) :
    v.Holds (value (v.numerator place v.center / v.denominator place, place)) := by
  have hplace : (0 : ℚ) < 10 ^ place := by positivity
  have hden := v.denominator_pos place
  generalize hn : v.numerator place v.center / v.denominator place = n
  have hle : (n : ℚ) * 10 ^ place ≤ v.center * 2 ^ (v.power - 2) := by
    rw [← le_numerator_iff, ← hn]
    exact Nat.div_mul_le_self _ _
  have hlt : (v.center : ℚ) * 2 ^ (v.power - 2) < (n + 1) * 10 ^ place := by
    have hnot : ¬ (n + 1) * v.denominator place ≤ v.numerator place v.center := by
      rw [not_le, ← hn]
      exact Nat.lt_mul_of_div_lt (Nat.lt_succ_self _) hden
    rw [le_numerator_iff, not_le] at hnot
    exact_mod_cast hnot
  have hlow : (v.low : ℚ) * 2 ^ (v.power - 2) < n * 10 ^ place := by
    have hcast : (v.low : ℚ) ≤ v.center - 1 := by
      rw [low_cast hs, center]
      push_cast
      split <;> linarith
    have hmul : (v.low : ℚ) * 2 ^ (v.power - 2) ≤ (v.center - 1) * 2 ^ (v.power - 2) := by
      gcongr
    linarith
  have hhigh : (n : ℚ) * 10 ^ place < v.high * 2 ^ (v.power - 2) := by
    have hcast : (v.center : ℚ) < v.high := by
      rw [high]
      push_cast
      linarith
    refine hle.trans_lt ?_
    gcongr
  exact ⟨hlow.le, hhigh.le, fun _ => ⟨hlow.ne, hhigh.ne⟩⟩

theorem holds_search (hs : v.significand ≠ 0) (grids : ℕ) (place : ℤ)
    (hp : (10 : ℚ) ^ (place - grids) < 2 ^ (v.power - 2)) :
    v.Holds (value (v.search grids place)) := by
  induction grids generalizing place with
  | zero =>
    rw [Nat.cast_zero, sub_zero] at hp
    exact holds_of_floor hs hp
  | succ grids ih =>
    rw [search]
    split
    next n hg => exact holds_of_contains (contains_of_onGrid? hg)
    next =>
      apply ih
      rw [sub_sub, add_comm (1 : ℤ)]
      exact_mod_cast hp

theorem leadingPlace_le (hs : v.significand ≠ 0) :
    (10 : ℚ) ^ v.leadingPlace ≤ v.center * 2 ^ (v.power - 2) := by
  have hratio := v.numerator_div 0 v.center
  rw [zpow_zero, div_one] at hratio
  rw [← hratio, leadingPlace]
  have hden := v.denominator_pos 0
  have hnum : v.numerator 0 v.center ≠ 0 := by
    have htwo : Nat.pow 2 (v.power - 2).toNat ≠ 0 := (Nat.pow_pos (by decide)).ne'
    have hten : Nat.pow 10 (-0 : ℤ).toNat ≠ 0 := (Nat.pow_pos (by decide)).ne'
    exact Nat.mul_ne_zero (Nat.mul_ne_zero (Nat.mul_ne_zero (by decide) hs) htwo) hten
  generalize v.numerator 0 v.center = num at *
  generalize v.denominator 0 = den at *
  have hcast : (0 : ℚ) < den := by exact_mod_cast hden
  rw [show (Nat.toDigits 10 num).length = Decimal.digitCount num from rfl,
    show (Nat.toDigits 10 den).length = Decimal.digitCount den from rfl]
  split
  next =>
    rw [le_div_iff₀ hcast]
    calc (10 : ℚ) ^ ((Decimal.digitCount num : ℤ) - Decimal.digitCount den - 1) * den
        ≤ 10 ^ ((Decimal.digitCount num : ℤ) - Decimal.digitCount den - 1) *
            10 ^ (Decimal.digitCount den : ℤ) := by
          gcongr
          exact (Binary64.zpow_lt_digitCount den).le
      _ = 10 ^ ((Decimal.digitCount num : ℤ) - 1) := by
          rw [← zpow_add₀ (by norm_num)]
          congr 1
          ring
      _ ≤ num := Binary64.zpow_digitCount_le hnum
  next h =>
    rw [scaled_lt_iff hden (by decide), not_lt] at h
    exact_mod_cast h

theorem holds_shortest (hs : v.significand ≠ 0) (hlt : v.significand < 2 ^ 53) :
    v.Holds (value (shortest v)) := by
  rw [shortest, value_dropZeros]
  apply holds_search hs
  have hlead := leadingPlace_le hs
  have hcenter : (v.center : ℚ) < 2 ^ 55 := by
    have h : v.center < 2 ^ 55 := by
      rw [center]
      omega
    exact_mod_cast h
  have hpower : (0 : ℚ) < 2 ^ (v.power - 2) := by positivity
  rw [zpow_sub₀ (by norm_num), div_lt_iff₀ (by positivity)]
  calc (10 : ℚ) ^ v.leadingPlace ≤ v.center * 2 ^ (v.power - 2) := hlead
    _ < 2 ^ 55 * 2 ^ (v.power - 2) := by gcongr
    _ ≤ 2 ^ (v.power - 2) * 10 ^ ((17 : ℕ) : ℤ) := by
        rw [mul_comm]
        gcongr
        norm_num

end Interval

end Conform.Shortest

namespace Conform.Binary64

variable {e : Fin 2047} {f : Fraction}

theorem holds_shortestDigits (hs : significand e f ≠ 0) :
    (interval e f).Holds (Shortest.value (shortestDigits e f)) := by
  rw [shortestDigits, if_neg hs]
  exact Shortest.Interval.holds_shortest hs (significand_lt e f)

/-- A finite number is read from its shortest digits, spelt with more zeros or not. -/
theorem ofDigits_shortestDigits (negative : Bool) (zeros : ℕ) :
    ofDigits negative ((shortestDigits e f).1 * 10 ^ zeros) ((shortestDigits e f).2 - zeros) =
      finite negative e f := by
  by_cases hs : significand e f = 0
  · rw [shortestDigits, if_pos hs, Nat.zero_mul]
    exact ofDigits_zero negative _ hs
  · apply ofDigits_of_holds negative hs
    have hvalue := holds_shortestDigits hs
    rw [Shortest.value] at hvalue
    push_cast
    rw [zpow_sub₀ (by norm_num), zpow_natCast, mul_assoc, mul_div_cancel₀ _ (by positivity)]
    exact hvalue

theorem ofLiteral_of_writes {text : List Char} {negative : Bool}
    (h : NumberLiteral.Writes text negative (shortestDigits e f).1 (shortestDigits e f).2) :
    ∃ l, NumberLiteral.read? text = some l ∧ ofLiteral l = finite negative e f := by
  obtain ⟨l, zeros, hl, rfl, hd, hp⟩ := h
  refine ⟨l, hl, ?_⟩
  rw [ofLiteral, hd, hp]
  exact ofDigits_shortestDigits l.negative zeros

end Conform.Binary64
