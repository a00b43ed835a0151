import Conform.Proofs.Json.Places
import Conform.Proofs.Nesting.RoundTrip
import Conform.Value.Order

namespace Conform

namespace Value

theorem same_decimal_iff {value : Value} {m d : Decimal} (hm : value.toDecimal? = some m) :
    value.same (.decimal d) = true ↔ m.same d = true := by
  cases value with
  | integer n =>
    cases hm
    simp [same, isNumeric, compare, compareNumbers, infinity?, toDecimal?, Decimal.same]
  | decimal m =>
    cases hm
    simp [same, isNumeric, compare, compareNumbers, infinity?, toDecimal?, Decimal.same]
  | double x =>
    cases x with
    | finite negative e f =>
      have hx : (Binary64.finite negative e f).toDecimal? = some m := hm
      simp [same, isNumeric, compare, compareNumbers, infinity?, hx, toDecimal?, Decimal.same]
    | _ => cases hm
  | _ => cases hm

end Value

namespace Decimal

variable {d : Decimal}

theorem value_whole (h : d.IsWhole) : (ofInt d.whole).value = d.value := by
  rw [value, value, ofInt, whole, neg_zero, zpow_zero, mul_one, Int.cast_mul, Int.cast_pow]
  rcases h with hzero | ⟨-, hscale⟩
  · rw [hzero, Int.cast_zero, zero_mul, zero_mul]
  · rw [← zpow_natCast, Int.toNat_of_nonneg (by omega)]
    rfl

/-- A decimal that is written as an integer, or that is out of the range of doubles, or that is the
number of a double. -/
def Survives (d : Decimal) : Prop :=
  d.IsWhole ∨ d.nearest.isFinite = false ∨ ∃ x m, Binary64.toDecimal? x = some m ∧ m.same d = true

end Decimal

namespace Json

variable {d : Decimal}

theorem toDecimal?_numberValue_integerText (n : Int) :
    (numberValue (String.ofList (Decimal.integerText n))).toDecimal? = some (.ofInt n) := by
  rw [numberValue_integerText]
  cases hn : Integer.ofInt? n with
  | none => rfl
  | some m =>
    rw [Integer.ofInt?] at hn
    split at hn
    next hfits =>
      rw [Integer.fits, Bool.and_eq_true, decide_eq_true_eq, decide_eq_true_eq] at hfits
      cases hn
      change some (Decimal.ofInt (Int64.ofInt n).toInt) = some (.ofInt n)
      rw [Int64.toInt_ofInt_of_le hfits.1 hfits.2]
    next => cases hn

theorem same_toValue_decimal_iff (hs : Integer.fits d.scale = true) :
    ((ofValue (.decimal d)).toValue).same (.decimal d) = true ↔ d.Survives := by
  rw [ofValue, toValue]
  by_cases h : d.IsWhole
  · have htext : decimalText d = String.ofList (Decimal.integerText d.whole) := by
      rw [← Decimal.charsWith_of_isWhole h, ← toList_decimalText, String.ofList_toList]
    rw [htext, Value.same_decimal_iff (toDecimal?_numberValue_integerText _), Decimal.same_iff]
    exact iff_of_true (Decimal.value_whole h) (.inl h)
  · rw [numberValue_decimalText h hs]
    by_cases hf : d.nearest.isFinite = true
    · obtain ⟨n, hn⟩ := Binary64.isFinite_iff.1 hf
      rw [if_pos hf, Value.same_decimal_iff (show (Value.double d.nearest).toDecimal? = some n from hn)]
      constructor
      · exact fun hsame => .inr (.inr ⟨_, n, hn, hsame⟩)
      · rintro (hwhole | hinfinite | ⟨x, m, hx, hm⟩)
        · exact absurd hwhole h
        · rw [hf] at hinfinite
          cases hinfinite
        · -- Some double has the number; the nearest one then has it too.
          have hd : d.unscaled ≠ 0 := fun hzero => h (.inl hzero)
          obtain ⟨n', hn', hsame⟩ := Decimal.nearest_of_same hd hx hm
          cases hn.symm.trans hn'
          exact hsame
    · rw [if_neg hf, Value.same_decimal_iff rfl, Decimal.same_iff]
      exact iff_of_true rfl (.inr (.inl (by simpa using hf)))

/-- A decimal, directly or in lists and maps, comes back as the same number exactly if it is
written as an integer, or is out of the range of doubles, or is the number of a double. -/
theorem decimals_restored_iff {c : Config} (h : c.Nestable) {key : String} (hk : c.Kept key)
    {value : Value} (hv : c.get? key = some value) {path : List Value.Step}
    (hd : value.at? path = some (.decimal d)) (hs : Integer.fits d.scale = true) :
    ∃ restored number, (ofConfig c).toConfig.get? key = some restored ∧
      restored.at? path = some number ∧ (number.same (.decimal d) = true ↔ d.Survives) := by
  refine ⟨_, _, ?_, at?_toValue (at?_ofValue hd), same_toValue_decimal_iff hs⟩
  rw [get?_toConfig_ofConfig h, if_pos hk, hv, Option.map_some]

/-- A decimal with the number of a double, and one with more digits than doubles have. -/
def rates : Config where
  entries := [("rates.vat", .list [.map [("half", .decimal ⟨50, 2⟩)]]), ("rates.base", .null)]
  distinct := by decide

theorem decimals_restored_rates :
    rates.Nestable ∧ rates.Kept "rates.vat" ∧
      ∃ restored number, (ofConfig rates).toConfig.get? "rates.vat" = some restored ∧
        restored.at? [.element 0, .entry "half"] = some number ∧
        number.same (.decimal ⟨50, 2⟩) = true := by
  have h : rates.Nestable := ⟨by decide, by decide⟩
  have hk : rates.Kept "rates.vat" := by decide
  have hhalf : Decimal.Survives ⟨50, 2⟩ := .inr (.inr ⟨.ofRatio false 1 2, ⟨5, 1⟩, rfl, rfl⟩)
  have hd : (Value.list [.map [("half", .decimal ⟨50, 2⟩)]]).at? [.element 0, .entry "half"] =
      some (.decimal ⟨50, 2⟩) := rfl
  obtain ⟨restored, number, hr, hn, hiff⟩ := decimals_restored_iff h hk rfl hd rfl
  exact ⟨h, hk, restored, number, hr, hn, hiff.2 hhalf⟩

def fine : Config := .ofList [("ratio", .decimal ⟨10000000000000000001, 20⟩)]

/-- The digits of a decimal that no double has are lost. -/
theorem decimals_not_restored_fine :
    (ofConfig fine).toConfig.get? "ratio" =
      some (.double (.finite false 1019 2702159776422298)) ∧
    (Value.double (.finite false 1019 2702159776422298)).toDecimal? = some ⟨1, 1⟩ ∧
    (Value.double (.finite false 1019 2702159776422298)).same
      (.decimal ⟨10000000000000000001, 20⟩) = false := by
  exact ⟨rfl, rfl, rfl⟩

end Json

end Conform
