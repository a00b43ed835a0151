import Mathlib.Tactic.Ring
import Conform.Number.Binary64

namespace Conform

namespace NumberLiteral

def Numeral (text : List Char) : Prop := ∀ c ∈ text, isDigit c = true

/-- No more digits and no point at the beginning of a text. -/
def Ends (text : List Char) : Prop := ∀ c ∈ text.head?, isDigit c = false ∧ c ≠ '.'

section Digits

variable {text text' : List Char}

theorem isDigit_eq (c : Char) : isDigit c = c.isDigit := rfl

theorem numeral_toDigits (n : Nat) : Numeral (Nat.toDigits 10 n) := by
  intro c hc
  rw [isDigit_eq]
  exact Nat.isDigit_of_mem_toDigits (by decide) (by decide) hc

theorem numeral_zeros (n : Nat) : Numeral (List.replicate n '0') := by
  intro c hc
  rw [List.eq_of_mem_replicate hc]
  decide

theorem Numeral.append (h : Numeral text) (h' : Numeral text') : Numeral (text ++ text') := by
  intro c hc
  exact (List.mem_append.1 hc).elim (h c) (h' c)

theorem Numeral.of_append_left (h : Numeral (text ++ text')) : Numeral text :=
  fun c hc => h c (List.mem_append_left _ hc)

theorem Numeral.of_append_right (h : Numeral (text ++ text')) : Numeral text' :=
  fun c hc => h c (List.mem_append_right _ hc)

theorem numeral_digit {c : Char} (h : Numeral (c :: text)) : c ≠ '-' ∧ c ≠ '+' ∧ c ≠ '.' := by
  have hc := h c List.mem_cons_self
  refine ⟨?_, ?_, ?_⟩ <;>
    · rintro rfl
      exact absurd hc (by decide)

theorem takeWhile_numeral (h : Numeral text) (ht : ∀ c ∈ text'.head?, isDigit c = false) :
    (text ++ text').takeWhile isDigit = text := by
  rw [List.takeWhile_append_of_pos h]
  cases text' with
  | nil => simp
  | cons c rest => simp [ht c rfl]

theorem dropWhile_numeral (h : Numeral text) (ht : ∀ c ∈ text'.head?, isDigit c = false) :
    (text ++ text').dropWhile isDigit = text' := by
  rw [List.dropWhile_append_of_pos h]
  cases text' with
  | nil => rfl
  | cons c rest => simp [ht c rfl]

end Digits

section Sign

theorem readSign_numeral {text : List Char} (h : Numeral text) (hne : text ≠ [])
    (rest : List Char) :
    readSign (text ++ rest) = (false, text ++ rest) := by
  cases text with
  | nil => exact absurd rfl hne
  | cons c text =>
    obtain ⟨hminus, hplus, -⟩ := numeral_digit h
    rw [List.cons_append, readSign]
    · rintro rest heq
      exact hminus (List.cons.inj heq).1
    · rintro rest heq
      exact hplus (List.cons.inj heq).1

theorem readSign_signText (negative : Bool) {text : List Char} (h : Numeral text) (hne : text ≠ [])
    (rest : List Char) :
    readSign (Binary64.signText negative ++ (text ++ rest)) = (negative, text ++ rest) := by
  cases negative with
  | true => rfl
  | false => exact readSign_numeral h hne rest

end Sign

section Exponent

theorem signText_eq (n : Int) : Decimal.signText n = Binary64.signText (decide (n < 0)) := by
  simp [Decimal.signText, Binary64.signText]

theorem readInteger?_numeral (negative : Bool) {text : List Char} (h : Numeral text)
    (hne : text ≠ []) : readInteger? (Binary64.signText negative ++ text) =
      some (if negative then -(Nat.ofDigitChars 10 text 0 : Int) else Nat.ofDigitChars 10 text 0) := by
  have hsign := readSign_signText negative h hne []
  rw [List.append_nil] at hsign
  have hall : text.all isDigit = true := List.all_eq_true.2 h
  have hempty : text.isEmpty = false := by simp [hne]
  rw [readInteger?, hsign]
  simp only [hall, hempty]
  rfl

theorem readInteger?_signText (negative : Bool) (n : Nat) :
    readInteger? (Binary64.signText negative ++ Nat.toDigits 10 n) =
      some (if negative then -(n : Int) else n) := by
  rw [readInteger?_numeral negative (numeral_toDigits n) Nat.toDigits_ne_nil,
    Nat.ofDigitChars_ten_toDigits]

theorem readInteger?_integerText (n : Int) : readInteger? (Decimal.integerText n) = some n := by
  rw [Decimal.integerText, signText_eq, readInteger?_signText]
  congr 1
  by_cases h : n < 0
  · rw [decide_eq_true h, if_pos rfl]
    omega
  · rw [decide_eq_false h]
    simp only [Bool.false_eq_true, if_false]
    omega

theorem readInteger?_plus {n : Int} (h : 0 ≤ n) :
    readInteger? ('+' :: Decimal.integerText n) = some n := by
  obtain ⟨m, rfl⟩ := Int.eq_ofNat_of_zero_le h
  have hread := readInteger?_integerText m
  have htext : Decimal.integerText m = Nat.toDigits 10 m := by
    rw [Decimal.integerText, Decimal.signText, if_neg (by omega), Int.natAbs_natCast,
      List.nil_append]
  rw [htext] at hread ⊢
  rw [← hread, readInteger?, readInteger?, ← List.append_nil (Nat.toDigits 10 m),
    readSign_numeral (numeral_toDigits m) Nat.toDigits_ne_nil]
  rfl

theorem readExponent?_plus (n : Int) :
    readExponent? ('e' :: ((if 0 ≤ n then ['+'] else []) ++ Decimal.integerText n)) = some n := by
  rw [readExponent?, if_pos (.inl rfl)]
  by_cases h : 0 ≤ n
  · rw [if_pos h]
    exact readInteger?_plus h
  · rw [if_neg h]
    exact readInteger?_integerText n

end Exponent

section Read

variable {whole fraction tail : List Char}

theorem read?_whole (negative : Bool) (hw : Numeral whole) (hne : whole ≠ []) (ht : Ends tail) :
    read? (Binary64.signText negative ++ (whole ++ tail)) =
      (readExponent? tail).map (⟨negative, whole, [], ·⟩) := by
  have hdigit : ∀ c ∈ tail.head?, isDigit c = false := fun c hc => (ht c hc).1
  rw [read?, readSign_signText negative hw hne]
  simp only [takeWhile_numeral hw hdigit, dropWhile_numeral hw hdigit]
  split
  next after =>
    exact absurd rfl (ht '.' rfl).2
  next => simp [hne]

theorem read?_pointed (negative : Bool) (hw : Numeral whole) (hne : whole ≠ [])
    (hf : Numeral fraction) (ht : Ends tail) :
    read? (Binary64.signText negative ++ (whole ++ '.' :: (fraction ++ tail))) =
      (readExponent? tail).map (⟨negative, whole, fraction, ·⟩) := by
  have hdigit : ∀ c ∈ tail.head?, isDigit c = false := fun c hc => (ht c hc).1
  have hpoint : ∀ c ∈ ('.' :: (fraction ++ tail)).head?, isDigit c = false := by
    intro c hc
    cases hc
    rfl
  rw [read?, readSign_signText negative hw hne]
  simp only [takeWhile_numeral hw hpoint, dropWhile_numeral hw hpoint, takeWhile_numeral hf hdigit,
    dropWhile_numeral hf hdigit]
  simp [hne]

end Read

/-- A text is read as `n * 10 ^ place`, with this many zeros of `n` spelt out. -/
def Spells (text : List Char) (negative : Bool) (n : Nat) (place : Int) (zeros : Nat) : Prop :=
  ∃ l : NumberLiteral, read? text = some l ∧ l.negative = negative ∧
    l.digits = n * 10 ^ zeros ∧ l.exponent - l.fraction.length = place - zeros

/-- A text is read as `n * 10 ^ place`, with some zeros of `n * 10 ^ zeros` spelt out. -/
def Writes (text : List Char) (negative : Bool) (n : Nat) (place : Int) : Prop :=
  ∃ (l : NumberLiteral) (zeros : Nat), read? text = some l ∧ l.negative = negative ∧
    l.digits = n * 10 ^ zeros ∧ l.exponent - l.fraction.length = place - zeros

theorem Spells.writes {text : List Char} {negative : Bool} {n : Nat} {place : Int} {zeros : Nat}
    (h : Spells text negative n place zeros) : Writes text negative n place := by
  obtain ⟨l, hl⟩ := h
  exact ⟨l, zeros, hl⟩

theorem ends_nil : Ends [] := by
  intro c hc
  cases hc

theorem ends_exponent {c : Char} (h : c = 'e' ∨ c = 'E') (rest : List Char) : Ends (c :: rest) := by
  intro d hd
  cases hd
  obtain rfl | rfl := h <;> decide

theorem ofDigitChars_zeros_append (zeros : Nat) (text : List Char) :
    Nat.ofDigitChars 10 (List.replicate zeros '0' ++ text) 0 = Nat.ofDigitChars 10 text 0 := by
  rw [Nat.ofDigitChars_append, Nat.ofDigitChars_replicate_zero, Nat.mul_zero]

section Forms

variable {whole fraction tail : List Char} {exponent place : Int} {n : Nat} (negative : Bool)
  (zeros : Nat)

theorem spells_of_whole (hw : Numeral whole) (hne : whole ≠ []) (ht : Ends tail)
    (he : readExponent? tail = some exponent)
    (hd : Nat.ofDigitChars 10 whole 0 = n * 10 ^ zeros) (hp : exponent = place - zeros) :
    Spells (Binary64.signText negative ++ (whole ++ tail)) negative n place zeros := by
  refine ⟨⟨negative, whole, [], exponent⟩, ?_, rfl, ?_, ?_⟩
  · rw [read?_whole negative hw hne ht, he]
    rfl
  · rw [digits, List.append_nil, hd]
  · simp [hp]

theorem spells_of_pointed (hw : Numeral whole) (hne : whole ≠ []) (hf : Numeral fraction)
    (ht : Ends tail) (he : readExponent? tail = some exponent)
    (hd : Nat.ofDigitChars 10 (whole ++ fraction) 0 = n * 10 ^ zeros)
    (hp : exponent - fraction.length = place - zeros) :
    Spells (Binary64.signText negative ++ (whole ++ '.' :: (fraction ++ tail))) negative n place
      zeros := by
  refine ⟨⟨negative, whole, fraction, exponent⟩, ?_, rfl, hd, hp⟩
  rw [read?_pointed negative hw hne hf ht, he]
  rfl

variable (n)

theorem spells_zeros (zeros : Nat) :
    Spells (Binary64.signText negative ++ (Nat.toDigits 10 n ++ List.replicate zeros '0')) negative
      n zeros zeros := by
  rw [← List.append_nil (_ ++ List.replicate zeros '0')]
  apply spells_of_whole negative zeros ((numeral_toDigits n).append (numeral_zeros zeros)) _
    ends_nil rfl
  · rw [Nat.ofDigitChars_append, Nat.ofDigitChars_ten_toDigits, Nat.ofDigitChars_replicate_zero,
      Nat.mul_comm]
  · omega
  · simp [Nat.toDigits_ne_nil]

theorem spells_zeros_pointed (zeros : Nat) :
    Spells (Binary64.signText negative ++
      (Nat.toDigits 10 n ++ List.replicate zeros '0' ++ ['.', '0'])) negative n zeros
      (zeros + 1) := by
  apply spells_of_pointed negative (zeros + 1) ((numeral_toDigits n).append (numeral_zeros zeros)) _
    (numeral_zeros 1) ends_nil rfl
  · rw [List.append_assoc, List.replicate_append_replicate, Nat.ofDigitChars_append,
      Nat.ofDigitChars_ten_toDigits, Nat.ofDigitChars_replicate_zero, Nat.mul_comm]
  · rw [List.length_replicate]
    omega
  · simp [Nat.toDigits_ne_nil]

theorem spells_pointed {places : Nat} (h : 0 < places) :
    Spells (Binary64.signText negative ++ Decimal.pointed (Nat.toDigits 10 n) places) negative n
      (-places) 0 := by
  have hn := numeral_toDigits n
  rw [Decimal.pointed]
  split
  next hlt =>
    have hsplit := List.take_append_drop ((Nat.toDigits 10 n).length - places) (Nat.toDigits 10 n)
    rw [← hsplit] at hn
    rw [← List.append_nil (List.drop _ _)]
    apply spells_of_pointed negative 0 hn.of_append_left _ hn.of_append_right ends_nil rfl
    · rw [hsplit, Nat.ofDigitChars_ten_toDigits, Nat.pow_zero, Nat.mul_one]
    · rw [List.length_drop]
      omega
    · intro hnil
      have hlength := congrArg List.length hnil
      simp at hlength
      omega
  next hge =>
    rw [← List.append_nil (_ ++ Nat.toDigits 10 n)]
    apply spells_of_pointed negative 0 (numeral_zeros 1) _ ((numeral_zeros _).append hn) ends_nil
      rfl
    · rw [ofDigitChars_zeros_append, ofDigitChars_zeros_append, Nat.ofDigitChars_ten_toDigits,
        Nat.pow_zero, Nat.mul_one]
    · rw [List.length_append, List.length_replicate]
      omega
    · simp

theorem spells_scientific {mark : Char} (hm : mark = 'e' ∨ mark = 'E') {text : List Char}
    (he : readExponent? (mark :: text) = some ((Nat.toDigits 10 n).length - 1 + place)) :
    Spells (Binary64.signText negative ++
      (Decimal.scientificDigits (Nat.toDigits 10 n) ++ mark :: text)) negative n place 0 := by
  have hn := numeral_toDigits n
  have hvalue := Nat.ofDigitChars_ten_toDigits (n := n)
  cases hds : Nat.toDigits 10 n with
  | nil => exact absurd hds Nat.toDigits_ne_nil
  | cons c rest =>
    rw [hds] at hn hvalue he
    have hfirst : Numeral [c] := Numeral.of_append_left (show Numeral ([c] ++ rest) from hn)
    have hends := ends_exponent hm text
    cases rest with
    | nil =>
      apply spells_of_whole negative 0 hfirst (by simp) hends he
      · rw [hvalue, Nat.pow_zero, Nat.mul_one]
      · simp
    | cons next more =>
      have hrest : Numeral (next :: more) :=
        Numeral.of_append_right (show Numeral ([c] ++ next :: more) from hn)
      apply spells_of_pointed negative 0 hfirst (by simp) hrest hends he
      · rw [List.singleton_append, hvalue, Nat.pow_zero, Nat.mul_one]
      · simp only [List.length_cons]
        omega

theorem spells_exponent {mark : Char} (hm : mark = 'e' ∨ mark = 'E') {text : List Char}
    (he : readExponent? (mark :: text) = some place) :
    Spells (Binary64.signText negative ++ (Nat.toDigits 10 n ++ mark :: text)) negative n place
      0 := by
  apply spells_of_whole negative 0 (numeral_toDigits n) Nat.toDigits_ne_nil
    (ends_exponent hm text) he
  · simp
  · simp

end Forms

end NumberLiteral

end Conform
