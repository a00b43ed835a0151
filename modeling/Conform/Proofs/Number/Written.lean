import Conform.Document.Json.Basic
import Conform.Proofs.Number.Value

namespace Conform

namespace NumberLiteral

theorem head_of_read? {text : List Char} {l : NumberLiteral} (h : read? text = some l) :
    ∃ c rest, (readSign text).2 = c :: rest ∧ (isDigit c = true ∨ c = '.') := by
  rw [read?] at h
  generalize readSign text = sign at *
  obtain ⟨negative, word⟩ := sign
  cases word with
  | nil => simp at h
  | cons c rest =>
    refine ⟨c, rest, rfl, ?_⟩
    by_cases hc : isDigit c = true
    · exact .inl hc
    · by_cases hp : c = '.'
      · exact .inr hp
      · simp only [List.takeWhile_cons_of_neg hc, List.dropWhile_cons_of_neg hc] at h
        split at h
        next heq => exact absurd (List.cons.inj heq).1 hp
        next => cases h

theorem readInteger?_eq_none {text : List Char} {c : Char} (hc : c ∈ text)
    (hd : isDigit c = false) (hm : c ≠ '-') (hp : c ≠ '+') : readInteger? text = none := by
  have hrest : c ∈ (readSign text).2 := by
    rw [readSign.eq_def]
    split
    next => exact (List.mem_cons.1 hc).resolve_left hm
    next => exact (List.mem_cons.1 hc).resolve_left hp
    next => exact hc
  rw [readInteger?]
  simp only
  rw [if_pos]
  have hall : (readSign text).2.all isDigit = false := by
    rw [List.all_eq_false]
    exact ⟨c, hrest, by simp [hd]⟩
  rw [hall, Bool.not_false, Bool.or_true]

end NumberLiteral

open NumberLiteral

theorem Binary64.ofChars?_of_read? {text : List Char} {l : NumberLiteral}
    (h : read? text = some l) : ofChars? text = some (ofLiteral l) := by
  obtain ⟨c, rest, hword, hc⟩ := head_of_read? h
  have hlower : c.toLower = c := by
    have hupper : ¬ (c.val ≥ 'A'.val ∧ c.val ≤ 'Z'.val) := by
      intro hu
      obtain hd | rfl := hc
      · simp only [isDigit, Char.le_def, Bool.and_eq_true, decide_eq_true_eq,
          UInt32.le_iff_toNat_le] at hd hu
        exact absurd (hu.1.trans hd.2) (by decide)
      · exact absurd hu (by decide)
    exact dif_neg hupper
  have hfirst : c ≠ 'i' ∧ c ≠ 'n' := by
    constructor <;>
      · rintro rfl
        obtain hd | hp := hc
        · exact absurd hd (by decide)
        · exact absurd hp (by decide)
  have hname : ∀ name : String, (∀ first ∈ name.toList.head?, c ≠ first) →
      String.ofList ((readSign text).2.map Char.toLower) ≠ name := by
    rintro name hne rfl
    exact hne c (by simp [hword, hlower]) rfl
  have hinf := hname "inf" (by rintro _ ⟨⟩; exact hfirst.1)
  have hinfinity := hname "infinity" (by rintro _ ⟨⟩; exact hfirst.1)
  have hnan := hname "nan" (by rintro _ ⟨⟩; exact hfirst.2)
  rw [ofChars?]
  simp only [hinf, hinfinity, hnan, or_self, if_false, h]
  rfl

namespace Decimal

/-- The text of a decimal, with another mark before the exponent of a number far below one. -/
def charsWith (mark : Char) (d : Decimal) : List Char :=
  let digits := Nat.toDigits 10 d.unscaled.natAbs
  let scale := if d.unscaled = 0 then 0 else d.scale
  signText d.unscaled ++
    if 0 < scale ∧ 5 < scale - digits.length then
      scientificDigits digits ++ mark :: integerText (digits.length - 1 - scale)
    else if 15 < -scale then digits ++ 'e' :: '+' :: integerText (-scale)
    else if scale ≤ 0 then digits ++ List.replicate (-scale).toNat '0'
    else pointed digits scale.toNat

theorem charsWith_eq (d : Decimal) : d.charsWith 'E' = d.chars := rfl

/-- A decimal that is written with digits only. -/
def IsWhole (d : Decimal) : Prop := d.unscaled = 0 ∨ (-15 ≤ d.scale ∧ d.scale ≤ 0)

/-- The integer that a decimal without fraction is. -/
def whole (d : Decimal) : Int := d.unscaled * 10 ^ (-d.scale).toNat

variable {d : Decimal} {mark : Char}

theorem toDigits_append_zeros {n : Nat} (h : 0 < n) (zeros : Nat) :
    Nat.toDigits 10 n ++ List.replicate zeros '0' = Nat.toDigits 10 (n * 10 ^ zeros) := by
  induction zeros with
  | zero => simp
  | succ zeros ih =>
    have hpos : 0 < n * 10 ^ zeros := Nat.mul_pos h (Nat.pow_pos (by decide))
    have hstep := Nat.toDigits_append_toDigits (by decide) hpos (show 0 < 10 by decide)
    rw [List.replicate_succ', ← List.append_assoc, ih, Nat.pow_succ, ← Nat.mul_assoc,
      Nat.mul_comm _ 10, ← Nat.add_zero (10 * _), ← hstep, Nat.toDigits_zero]

theorem charsWith_of_isWhole (h : d.IsWhole) : d.charsWith mark = integerText d.whole := by
  rw [charsWith, whole]
  by_cases hzero : d.unscaled = 0
  · simp [hzero, integerText, signText]
  · obtain ⟨hlow, hhigh⟩ := h.resolve_left hzero
    have hpower : (0 : Int) < 10 ^ (-d.scale).toNat := by positivity
    have hsign : d.unscaled * 10 ^ (-d.scale).toNat < 0 ↔ d.unscaled < 0 := by
      rw [mul_neg_iff]
      omega
    rw [if_neg hzero, if_neg (by omega), if_neg (by omega), if_pos hhigh,
      toDigits_append_zeros (by omega), integerText, signText, signText, Int.natAbs_mul,
      Int.natAbs_pow]
    simp only [hsign]
    rfl

/-- A decimal that is not written as an integer is written with its own digits and places. -/
theorem spells_charsWith (hm : mark = 'e' ∨ mark = 'E') (h : ¬ d.IsWhole) :
    Spells (d.charsWith mark) (decide (d.unscaled < 0)) d.unscaled.natAbs (-d.scale) 0 := by
  rw [IsWhole, not_or] at h
  rw [charsWith, signText_eq, if_neg h.1]
  generalize d.scale = scale at h
  split
  next =>
    apply spells_scientific _ _ hm
    rw [readExponent?, if_pos hm, readInteger?_integerText]
    rfl
  next =>
    split
    next hlarge =>
      apply spells_exponent _ _ (.inl rfl)
      rw [readExponent?, if_pos (.inl rfl), readInteger?_plus (by omega)]
    next =>
      rw [if_neg (by omega)]
      have hs := spells_pointed d.unscaled.natAbs (decide (d.unscaled < 0))
        (show 0 < scale.toNat by omega)
      rwa [Int.toNat_of_nonneg (by omega)] at hs

theorem mark_mem_pointed (digits : List Char) (places : Nat) : '.' ∈ pointed digits places := by
  rw [pointed]
  split <;> simp

theorem mark_mem_charsWith (h : ¬ d.IsWhole) :
    ∃ c ∈ d.charsWith 'e', c = '.' ∨ c = 'e' := by
  rw [IsWhole, not_or] at h
  rw [charsWith, if_neg h.1]
  split
  next => exact ⟨'e', by simp, .inr rfl⟩
  next =>
    split
    next => exact ⟨'e', by simp, .inr rfl⟩
    next =>
      rw [if_neg (by omega)]
      exact ⟨'.', List.mem_append_right _ (mark_mem_pointed ..), .inl rfl⟩

theorem spells_integerText (n : Int) : Spells (integerText n) (decide (n < 0)) n.natAbs 0 0 := by
  have h := spells_zeros n.natAbs (decide (n < 0)) 0
  rwa [List.replicate_zero, List.append_nil, ← signText_eq] at h

theorem mem_signText {n : Int} {c : Char} (h : c ∈ signText n) : c = '-' := by
  rw [signText] at h
  split at h
  next => exact List.mem_singleton.1 h
  next => cases h

theorem mem_integerText {n : Int} {c : Char} (h : c ∈ integerText n) :
    isDigit c = true ∨ c = '-' :=
  (List.mem_append.1 h).elim (.inr ∘ mem_signText) (.inl ∘ numeral_toDigits _ c)

theorem mem_scientificDigits {digits : List Char} {c : Char} (h : c ∈ scientificDigits digits)
    (hp : c ≠ '.') : c ∈ digits := by
  rw [scientificDigits.eq_def] at h
  split at h
  next => exact h
  next => exact h
  next => simpa [hp] using h

theorem mem_pointed {digits : List Char} {places : Nat} {c : Char} (h : c ∈ pointed digits places)
    (hp : c ≠ '.') (hz : c ≠ '0') : c ∈ digits := by
  rw [pointed] at h
  split at h
  next =>
    rw [List.mem_append, List.mem_cons] at h
    obtain h | h | h := h
    · exact List.mem_of_mem_take h
    · exact absurd h hp
    · exact List.mem_of_mem_drop h
  next => simpa [hp, hz] using h

theorem ofLiteral?_eq {l : NumberLiteral} (hnegative : l.negative = decide (d.unscaled < 0))
    (hdigits : l.digits = d.unscaled.natAbs) (hplace : l.exponent - l.fraction.length = -d.scale)
    (hs : Integer.fits d.scale = true) : ofLiteral? l = some d := by
  have hscale : (l.fraction.length : Int) - l.exponent = d.scale := by omega
  have hunscaled : (if l.negative then -(l.digits : Int) else l.digits) = d.unscaled := by
    rw [hnegative, hdigits]
    by_cases hneg : d.unscaled < 0
    · rw [if_pos (decide_eq_true hneg)]
      omega
    · rw [if_neg (by simpa using hneg)]
      omega
  rw [ofLiteral?]
  simp only [hscale, if_pos hs, hunscaled]

/-- The text of every decimal reads as a floating-point number. -/
theorem exists_ofChars? (d : Decimal) : ∃ x, Binary64.ofChars? d.chars = some x := by
  by_cases h : d.IsWhole
  · obtain ⟨l, hl, -⟩ := spells_integerText d.whole
    rw [← charsWith_eq, charsWith_of_isWhole h]
    exact ⟨_, Binary64.ofChars?_of_read? hl⟩
  · obtain ⟨l, hl, -⟩ := spells_charsWith (.inr rfl) h
    exact ⟨_, Binary64.ofChars?_of_read? hl⟩

end Decimal

namespace Json

variable (negative : Bool) (e : Fin 2047) (f : Binary64.Fraction)

theorem writes_doubleText :
    Writes (doubleText negative e f) negative (Binary64.shortestDigits e f).1
      (Binary64.shortestDigits e f).2 := by
  rw [doubleText]
  generalize Binary64.shortestDigits e f = d
  obtain ⟨n, place⟩ := d
  simp only
  split
  next =>
    rw [Binary64.positional]
    split
    next hle =>
      have h := (spells_zeros_pointed n negative place.toNat).writes
      rw [Int.toNat_of_nonneg hle] at h
      exact h
    next hlt =>
      have h := (spells_pointed n negative (show 0 < (-place).toNat by omega)).writes
      rw [Int.toNat_of_nonneg (by omega), neg_neg] at h
      rwa [List.append_nil]
  next =>
    rw [List.append_assoc]
    apply (spells_scientific n negative (.inl rfl) ?_).writes
    have hlead : ((Nat.toDigits 10 n).length : Int) - 1 + place =
        (Nat.toDigits 10 n).length + place - 1 := by ring
    rw [hlead]
    exact readExponent?_plus _

theorem mark_mem_doubleText :
    ∃ c ∈ doubleText negative e f, c = '.' ∨ c = 'e' := by
  rw [doubleText]
  generalize Binary64.shortestDigits e f = d
  obtain ⟨n, place⟩ := d
  simp only
  split
  next =>
    refine ⟨'.', List.mem_append_right _ ?_, .inl rfl⟩
    by_cases hp : 0 ≤ place
    · rw [if_pos hp]
      exact List.mem_append_right _ (by simp)
    · rw [Binary64.positional, if_neg hp, if_neg hp, List.append_nil]
      exact Decimal.mark_mem_pointed ..
  next => exact ⟨'e', by simp, .inr rfl⟩

theorem numberValue_of_read? {text : List Char} {l : NumberLiteral} (hl : read? text = some l)
    (hm : ∃ c ∈ text, c = '.' ∨ c = 'e') :
    numberValue (String.ofList text) =
      if (Binary64.ofLiteral l).isFinite then .double (Binary64.ofLiteral l)
      else match Decimal.ofLiteral? l with
        | some d => .decimal d
        | none => .null := by
  obtain ⟨c, hc, hmark⟩ := hm
  have hinteger : integer? text = none := by
    rw [integer?, readInteger?_eq_none hc]
    · rfl
    · obtain rfl | rfl := hmark <;> decide
    · obtain rfl | rfl := hmark <;> decide
    · obtain rfl | rfl := hmark <;> decide
  have hany : text.any (fun c => c = '.' || c = 'e' || c = 'E') = true := by
    rw [List.any_eq_true]
    refine ⟨c, hc, ?_⟩
    obtain rfl | rfl := hmark <;> decide
  have hdouble : double? text =
      if (Binary64.ofLiteral l).isFinite then some (Binary64.ofLiteral l) else none := by
    rw [double?, if_pos hany, hl]
  have hdecimal : Decimal.ofChars? text = Decimal.ofLiteral? l := by
    rw [Decimal.ofChars?, hl, Option.bind_some]
  rw [numberValue, String.toList_ofList]
  simp only [hinteger, hdouble, hdecimal]
  by_cases hf : (Binary64.ofLiteral l).isFinite = true
  · simp only [if_pos hf]
  · simp only [if_neg hf]
    cases Decimal.ofLiteral? l <;> rfl

theorem numberValue_double :
    numberValue (String.ofList (doubleText negative e f)) = .double (.finite negative e f) := by
  obtain ⟨l, hl, hx⟩ := Binary64.ofLiteral_of_writes (writes_doubleText negative e f)
  rw [numberValue_of_read? hl (mark_mem_doubleText negative e f), hx]
  rfl

/-- A number with digits only is an integer if it fits, and a decimal otherwise. -/
theorem numberValue_of_readInteger? {text : List Char} {n : Int} (h : readInteger? text = some n)
    (hd : Decimal.ofChars? text = some (.ofInt n)) (hc : ∀ c ∈ text, isDigit c = true ∨ c = '-') :
    numberValue (String.ofList text) =
      match Integer.ofInt? n with
      | some m => .integer m
      | none => .decimal (.ofInt n) := by
  have hinteger : integer? text = Integer.ofInt? n := by
    rw [integer?, h, Option.bind_some]
  have hany : text.any (fun c => c = '.' || c = 'e' || c = 'E') = false := by
    rw [List.any_eq_false]
    intro c hmem
    obtain hc | rfl := hc c hmem
    · have hmarks : c ≠ '.' ∧ c ≠ 'e' ∧ c ≠ 'E' := by
        refine ⟨?_, ?_, ?_⟩ <;>
          · rintro rfl
            exact absurd hc (by decide)
      simp [hmarks]
    · decide
  have hdouble : double? text = none := by
    rw [double?, hany]
    rfl
  rw [numberValue, String.toList_ofList]
  simp only [hinteger, hdouble, hd]
  cases Integer.ofInt? n <;> rfl

theorem ofChars?_integerText (n : Int) :
    Decimal.ofChars? (Decimal.integerText n) = some (.ofInt n) := by
  obtain ⟨l, hl, hnegative, hdigits, hplace⟩ := Decimal.spells_integerText n
  rw [Nat.pow_zero, Nat.mul_one] at hdigits
  rw [Decimal.ofChars?, hl]
  exact Decimal.ofLiteral?_eq hnegative hdigits (by simpa [Decimal.ofInt] using hplace) rfl

theorem numberValue_integerText (n : Int) :
    numberValue (String.ofList (Decimal.integerText n)) =
      match Integer.ofInt? n with
      | some m => .integer m
      | none => .decimal (.ofInt n) :=
  numberValue_of_readInteger? (readInteger?_integerText n) (ofChars?_integerText n)
    fun _ => Decimal.mem_integerText

theorem numberValue_integer (n : Int64) :
    numberValue (String.ofList (Decimal.integerText n.toInt)) = .integer n := by
  have hfits : Integer.fits n.toInt = true := by
    have hl := n.le_toInt
    have hu := n.toInt_lt
    simp [Integer.fits]
    omega
  rw [numberValue_integerText, Integer.ofInt?, if_pos hfits, Int64.ofInt_toInt]

theorem toList_decimalText (d : Decimal) : (decimalText d).toList = d.charsWith 'e' := by
  have hkeep {text : List Char} (h : 'E' ∉ text) :
      text.map (fun c => if c = 'E' then 'e' else c) = text := by
    calc text.map (fun c => if c = 'E' then 'e' else c)
        = text.map id := List.map_congr_left fun c hc => if_neg (ne_of_mem_of_not_mem hc h)
      _ = text := List.map_id text
  have hdigits : 'E' ∉ Nat.toDigits 10 d.unscaled.natAbs := by
    intro hc
    exact absurd (numeral_toDigits _ _ hc) (by decide)
  have hsign : 'E' ∉ Decimal.signText d.unscaled := by
    intro hc
    exact absurd (Decimal.mem_signText hc) (by decide)
  have hinteger (n : Int) : 'E' ∉ Decimal.integerText n := by
    intro hc
    exact absurd (Decimal.mem_integerText hc) (by decide)
  rw [decimalText, String.toList_ofList, Decimal.chars, Decimal.charsWith, List.map_append,
    hkeep hsign]
  congr 1
  generalize (if d.unscaled = 0 then (0 : Int) else d.scale) = scale
  split
  next =>
    rw [List.map_append, List.map_cons, hkeep (hinteger _), if_pos rfl, hkeep]
    exact fun hc => hdigits (Decimal.mem_scientificDigits hc (by decide))
  next =>
    split
    next => rw [hkeep (by simp [hdigits, hinteger])]
    next =>
      split
      next => rw [hkeep (by simp [hdigits])]
      next =>
        rw [hkeep]
        exact fun hc => hdigits (Decimal.mem_pointed hc (by decide) (by decide))

/-- A decimal that is not written as an integer comes back as the nearest double if that is
finite. -/
theorem numberValue_decimalText {d : Decimal} (h : ¬ d.IsWhole) (hs : Integer.fits d.scale = true) :
    numberValue (decimalText d) =
      if d.nearest.isFinite then .double d.nearest else .decimal d := by
  obtain ⟨l, hl, hnegative, hdigits, hplace⟩ := Decimal.spells_charsWith (.inl rfl) h
  have htext : decimalText d = String.ofList (d.charsWith 'e') := by
    rw [← toList_decimalText, String.ofList_toList]
  rw [Nat.pow_zero, Nat.mul_one] at hdigits
  rw [Nat.cast_zero, sub_zero] at hplace
  have hnearest : Binary64.ofLiteral l = d.nearest := by
    rw [Binary64.ofLiteral, hnegative, hdigits, hplace, Decimal.nearest]
  have hdecimal : Decimal.ofLiteral? l = some d :=
    Decimal.ofLiteral?_eq hnegative hdigits hplace hs
  rw [htext, numberValue_of_read? hl (Decimal.mark_mem_charsWith h), hnearest, hdecimal]

end Json

end Conform
