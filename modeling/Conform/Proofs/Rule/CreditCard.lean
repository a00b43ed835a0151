import Mathlib.Data.Nat.Bits
import Conform.Rule

namespace Conform

namespace CreditCard

variable {text other front gap back : List Char} {c d : Char}

/-- What a digit adds to the checksum in the places where digits are doubled and in the others. -/
def weight (twice : Bool) (digit : Nat) : Nat := if twice then doubled digit else digit

/-- The sum of digits of which every second one is doubled, from the first or from the second on. -/
def weighed : (twice : Bool) → List Nat → Nat
  | _, [] => 0
  | twice, digit :: rest => weight twice digit + weighed (!twice) rest

theorem checksum_eq_weighed (digits : List Nat) : checksum digits = weighed false digits := by
  fun_induction checksum digits with
  | case1 => rfl
  | case2 d => rfl
  | case3 d e rest ih =>
    rw [ih, Nat.add_assoc]
    rfl

theorem weighed_append (twice : Bool) (front back : List Nat) :
    weighed twice (front ++ back) =
      weighed twice front + weighed (twice ^^ front.length.bodd) back := by
  induction front generalizing twice with
  | nil => simp [weighed]
  | cons digit front ih =>
    rw [List.cons_append, weighed, weighed, ih, List.length_cons, Nat.bodd_succ, Bool.not_xor,
      Bool.xor_not, Nat.add_assoc]

theorem checksum_place (front back : List Nat) (digit : Nat) :
    checksum (front ++ digit :: back).reverse =
      weighed false back.reverse +
        (weight back.length.bodd digit + weighed (!back.length.bodd) front.reverse) := by
  rw [checksum_eq_weighed, List.reverse_append, List.reverse_cons, List.append_assoc,
    List.singleton_append, weighed_append, List.length_reverse, Bool.false_xor, weighed]

theorem checksum_places (front back : List Nat) (digit next : Nat) :
    checksum (front ++ digit :: next :: back).reverse =
      weighed false back.reverse +
        (weight back.length.bodd next + weight (!back.length.bodd) digit +
          weighed back.length.bodd front.reverse) := by
  have h := checksum_place (front ++ [digit]) back next
  rw [List.append_assoc, List.singleton_append] at h
  rw [h, List.reverse_append, List.reverse_singleton, List.singleton_append, weighed, Bool.not_not,
    Nat.add_assoc]

theorem weight_inj : ∀ twice, ∀ m < 10, ∀ n < 10,
    weight twice m % 10 = weight twice n % 10 → m = n := by
  decide

theorem weight_exchange : ∀ twice, ∀ m < 10, ∀ n < 10,
    ((weight twice m + weight (!twice) n) % 10 = (weight twice n + weight (!twice) m) % 10 ↔
      m = n ∨ m = 0 ∧ n = 9 ∨ m = 9 ∧ n = 0) := by
  decide

/-- The last digit of the checksum shows that a digit has been replaced. -/
theorem checksum_replace (front back : List Nat) {m n : Nat} (hm : m < 10) (hn : n < 10) :
    checksum (front ++ m :: back).reverse % 10 = checksum (front ++ n :: back).reverse % 10 ↔
      m = n := by
  rw [checksum_place, checksum_place]
  constructor
  · intro h
    apply weight_inj back.length.bodd m hm n hn
    omega
  · rintro rfl
    rfl

/-- The last digit of the checksum shows that two digits have been exchanged, but for zero and
nine. -/
theorem checksum_exchange (front back : List Nat) {m n : Nat} (hm : m < 10) (hn : n < 10) :
    checksum (front ++ n :: m :: back).reverse % 10 =
        checksum (front ++ m :: n :: back).reverse % 10 ↔
      m = n ∨ m = 0 ∧ n = 9 ∨ m = 9 ∧ n = 0 := by
  rw [checksum_places, checksum_places, ← weight_exchange back.length.bodd m hm n hn]
  omega

def bare (text : List Char) : List Char := text.filter (!isSeparator ·)

def digitValue (c : Char) : Nat := c.toNat - 48

theorem digitValue_lt (h : c.isDigit = true) : digitValue c < 10 := by
  obtain ⟨hlow, hhigh⟩ := Char.isDigit_iff_toNat.1 h
  change c.toNat ≤ 57 at hhigh
  rw [digitValue]
  omega

theorem digitValue_inj (hc : c.isDigit = true) (hd : d.isDigit = true) :
    digitValue c = digitValue d ↔ c = d := by
  obtain ⟨hlow, -⟩ := Char.isDigit_iff_toNat.1 hc
  obtain ⟨hlow', -⟩ := Char.isDigit_iff_toNat.1 hd
  change 48 ≤ c.toNat at hlow
  change 48 ≤ d.toNat at hlow'
  refine ⟨fun h => Char.toNat_inj.1 ?_, fun h => congrArg digitValue h⟩
  rw [digitValue, digitValue] at h
  omega

theorem isSeparator_of_isDigit (h : c.isDigit = true) : isSeparator c = false := by
  rw [isSeparator, Bool.or_eq_false_iff, decide_eq_false_iff_not, decide_eq_false_iff_not]
  constructor
  · rintro rfl
    cases h
  · rintro rfl
    cases h

theorem bare_append (front back : List Char) : bare (front ++ back) = bare front ++ bare back :=
  List.filter_append ..

theorem bare_cons (h : c.isDigit = true) (rest : List Char) : bare (c :: rest) = c :: bare rest :=
  List.filter_cons_of_pos (by rw [isSeparator_of_isDigit h]; rfl)

theorem bare_of_separators (h : ∀ c ∈ gap, isSeparator c = true) : bare gap = [] :=
  List.filter_eq_nil_iff.2 fun c hc => by rw [h c hc]; decide

/-- The digits that a text writes, if nothing but digits stands between its separators. -/
def values (text : List Char) : List Nat := (bare text).map digitValue

theorem digits?_eq (text : List Char) :
    digits? text = if (bare text).all Char.isDigit then some (values text) else none := by
  rw [digits?, ← bare, values]
  induction bare text with
  | nil => rfl
  | cons c rest ih =>
    rw [List.mapM_cons, ih, digit?, List.all_cons]
    by_cases hc : c.isDigit = true
    · rw [if_pos hc, hc, Bool.true_and]
      cases rest.all Char.isDigit <;> rfl
    · simp [hc]

theorem isNumber_iff :
    isNumber text = true ↔
      (∀ c ∈ bare text, c.isDigit = true) ∧ 13 ≤ (bare text).length ∧ (bare text).length ≤ 19 ∧
        checksum (values text).reverse % 10 = 0 := by
  rw [isNumber, digits?_eq, ← List.all_eq_true]
  by_cases hall : (bare text).all Char.isDigit = true
  · rw [if_pos hall, and_iff_right hall]
    simp only [values, List.length_map, Bool.and_eq_true, decide_eq_true_eq, beq_iff_eq, and_assoc]
  · rw [if_neg hall]
    exact iff_of_false (by simp) fun h => hall h.1

/-- Of texts with as many digits those are numbers whose checksums have the same last digit. -/
theorem isNumber_iff_of_length_eq (h : isNumber text = true)
    (hdigits : ∀ c ∈ bare other, c.isDigit = true)
    (hlength : (bare other).length = (bare text).length) :
    isNumber other = true ↔
      checksum (values other).reverse % 10 = checksum (values text).reverse % 10 := by
  obtain ⟨-, hleast, hmost, hsum⟩ := isNumber_iff.1 h
  rw [isNumber_iff, hlength, hsum]
  exact ⟨fun h => h.2.2.2, fun h => ⟨hdigits, hleast, hmost, h⟩⟩

theorem isNumber_replace (h : isNumber (front ++ c :: back) = true) (hc : c.isDigit = true)
    (hd : d.isDigit = true) : isNumber (front ++ d :: back) = true ↔ d = c := by
  have hbare {e : Char} (he : e.isDigit = true) :
      bare (front ++ e :: back) = bare front ++ e :: bare back := by
    rw [bare_append, bare_cons he]
  have hdigits := (isNumber_iff.1 h).1
  rw [hbare hc, List.forall_mem_append, List.forall_mem_cons] at hdigits
  rw [isNumber_iff_of_length_eq h, values, values, hbare hc, hbare hd]
  · simp only [List.map_append, List.map_cons]
    rw [checksum_replace _ _ (digitValue_lt hd) (digitValue_lt hc), digitValue_inj hd hc]
  · rw [hbare hd, List.forall_mem_append, List.forall_mem_cons]
    exact ⟨hdigits.1, hd, hdigits.2.2⟩
  · rw [hbare hc, hbare hd, List.length_append, List.length_append]
    rfl

theorem isNumber_exchange (h : isNumber (front ++ c :: (gap ++ d :: back)) = true)
    (hc : c.isDigit = true) (hd : d.isDigit = true) (hgap : ∀ s ∈ gap, isSeparator s = true) :
    isNumber (front ++ d :: (gap ++ c :: back)) = true ↔
      c = d ∨ c = '0' ∧ d = '9' ∨ c = '9' ∧ d = '0' := by
  have hbare {e f : Char} (he : e.isDigit = true) (hf : f.isDigit = true) :
      bare (front ++ e :: (gap ++ f :: back)) = bare front ++ e :: f :: bare back := by
    rw [bare_append, bare_cons he, bare_append, bare_of_separators hgap, List.nil_append,
      bare_cons hf]
  have hzero {e : Char} (he : e.isDigit = true) : digitValue e = 0 ↔ e = '0' :=
    digitValue_inj he (d := '0') rfl
  have hnine {e : Char} (he : e.isDigit = true) : digitValue e = 9 ↔ e = '9' :=
    digitValue_inj he (d := '9') rfl
  have hdigits := (isNumber_iff.1 h).1
  rw [hbare hc hd, List.forall_mem_append, List.forall_mem_cons, List.forall_mem_cons] at hdigits
  rw [isNumber_iff_of_length_eq h, values, values, hbare hc hd, hbare hd hc]
  · simp only [List.map_append, List.map_cons]
    rw [checksum_exchange _ _ (digitValue_lt hc) (digitValue_lt hd), digitValue_inj hc hd,
      hzero hc, hzero hd, hnine hc, hnine hd]
  · rw [hbare hd hc, List.forall_mem_append, List.forall_mem_cons, List.forall_mem_cons]
    exact ⟨hdigits.1, hd, hc, hdigits.2.2.2⟩
  · rw [hbare hc hd, hbare hd hc, List.length_append, List.length_append]
    rfl

theorem isNumber_of_bare_eq (h : bare other = bare text) : isNumber other = isNumber text := by
  rw [Bool.eq_iff_iff, isNumber_iff, isNumber_iff, values, values, h]

theorem chars_of_isNumber (h : isNumber text = true) :
    (∀ c ∈ text, c.isDigit = true ∨ c = ' ' ∨ c = '-') ∧
      13 ≤ text.countP Char.isDigit ∧ text.countP Char.isDigit ≤ 19 := by
  obtain ⟨hdigits, hleast, hmost, -⟩ := isNumber_iff.1 h
  have hchar : ∀ c ∈ text, isSeparator c = false → c.isDigit = true := by
    intro c hc hs
    exact hdigits c (List.mem_filter.2 ⟨hc, by rw [hs]; rfl⟩)
  have hcount : text.countP Char.isDigit = (bare text).length := by
    rw [bare, ← List.countP_eq_length_filter]
    apply List.countP_congr
    intro c hc
    rw [Bool.not_eq_true']
    exact ⟨isSeparator_of_isDigit, hchar c hc⟩
  refine ⟨fun c hc => ?_, hcount ▸ hleast, hcount ▸ hmost⟩
  by_cases hs : isSeparator c = true
  · rw [isSeparator, Bool.or_eq_true, decide_eq_true_eq, decide_eq_true_eq] at hs
    exact .inr hs
  · exact .inl (hchar c hc (Bool.eq_false_iff.2 hs))

end CreditCard

namespace Rule

open CreditCard (isSeparator bare isNumber)

variable {config : Config} {key : String} {text : List Char}

def isCreditCard (config : Config) (key : String) (text : List Char) : Bool :=
  creditCard.check (.flag true) ⟨config, key, .text (String.ofList text)⟩

theorem isCreditCard_eq (config : Config) (key : String) (text : List Char) :
    isCreditCard config key text = isNumber text := by
  simp [isCreditCard, check, hasForm, Value.flag?, Value.text?]

/-- A text that passes for a credit card number has 13 to 19 digits with nothing but spaces and
dashes between them, and passes whatever spaces and dashes these are. With one of its digits
replaced it passes no more, and neither with two different ones exchanged between which no other
stands, unless these are zero and nine. -/
theorem creditCard_detects_typos (h : isCreditCard config key text = true) :
    (∀ c ∈ text, c.isDigit = true ∨ c = ' ' ∨ c = '-') ∧
    (13 ≤ text.countP Char.isDigit ∧ text.countP Char.isDigit ≤ 19) ∧
    (∀ front c d back, text = front ++ c :: back → c.isDigit = true → d.isDigit = true →
      d ≠ c → isCreditCard config key (front ++ d :: back) = false) ∧
    (∀ front c gap d back, text = front ++ c :: (gap ++ d :: back) → c.isDigit = true →
      d.isDigit = true → (∀ s ∈ gap, isSeparator s = true) → c ≠ d →
        (isCreditCard config key (front ++ d :: (gap ++ c :: back)) = true ↔
          c = '0' ∧ d = '9' ∨ c = '9' ∧ d = '0')) ∧
    ∀ other, bare other = bare text → isCreditCard config key other = true := by
  rw [isCreditCard_eq] at h
  simp only [isCreditCard_eq]
  obtain ⟨hchars, hcount⟩ := CreditCard.chars_of_isNumber h
  refine ⟨hchars, hcount, ?_, ?_, ?_⟩
  · rintro front c d back rfl hc hd hne
    rw [← Bool.not_eq_true, CreditCard.isNumber_replace h hc hd]
    exact hne
  · rintro front c gap d back rfl hc hd hgap hne
    rw [CreditCard.isNumber_exchange h hc hd hgap]
    exact or_iff_right hne
  · intro other hbare
    rw [CreditCard.isNumber_of_bare_eq hbare, h]

theorem creditCard_detects_typos_dashed :
    isCreditCard ∅ "card" "4500-9311-2704-6129".toList = true ∧
      isCreditCard ∅ "card" "4500-9311-2704-6189".toList = false ∧
      isCreditCard ∅ "card" "4500-9311-2740-6129".toList = false ∧
      isCreditCard ∅ "card" "4509-0311-2704-6129".toList = true ∧
      isCreditCard ∅ "card" " 45009 311270461-29".toList = true := by
  have h : isCreditCard ∅ "card" "4500-9311-2704-6129".toList = true := by
    rw [isCreditCard_eq]
    decide
  obtain ⟨-, -, hreplace, hexchange, hbare⟩ := creditCard_detects_typos h
  refine ⟨h, ?_, ?_, ?_, hbare _ (by decide)⟩
  · have hother : "4500-9311-2704-6189".toList = "4500-9311-2704-61".toList ++ '8' :: ['9'] := by
      decide
    rw [hother]
    exact hreplace _ '2' '8' ['9'] (by decide) rfl rfl (by decide)
  · have hother : "4500-9311-2740-6129".toList =
        "4500-9311-27".toList ++ '4' :: ([] ++ '0' :: "-6129".toList) := by
      decide
    rw [hother, ← Bool.not_eq_true,
      hexchange _ '0' [] '4' _ (by decide) rfl rfl (by simp) (by decide)]
    decide
  · have hother : "4509-0311-2704-6129".toList =
        "450".toList ++ '9' :: (['-'] ++ '0' :: "311-2704-6129".toList) := by
      decide
    rw [hother, hexchange _ '0' ['-'] '9' _ (by decide) rfl rfl (by simp [isSeparator]) (by decide)]
    decide

end Rule

end Conform
