import Mathlib.Data.List.Induction
import Conform.Proofs.Properties.Escape

namespace Conform

namespace Radix

variable {base : Nat} {digits : List Char}

theorem value_append (base : Nat) (digits : List Char) (c : Char) :
    value base (digits ++ [c]) = base * value base digits + (hexDigit? c).getD 0 := by
  rw [value, List.foldl_append]
  rfl

theorem digit_lt {c : Char} (h : isDigit base c = true) : (hexDigit? c).getD 0 < base := by
  rw [isDigit] at h
  cases hd : hexDigit? c with
  | none => simp [hd] at h
  | some d => simpa [hd] using h

theorem value_lt_pow (h : ∀ c ∈ digits, isDigit base c = true) :
    value base digits < base.pow digits.length := by
  induction digits using List.reverseRecOn with
  | nil => exact Nat.one_pos
  | append_singleton digits c ih =>
    have hdigits := ih fun d hd => h d (List.mem_append_left _ hd)
    have hc := digit_lt (h c (by simp))
    rw [value_append, List.length_append, List.length_singleton]
    calc base * value base digits + (hexDigit? c).getD 0
        < base * value base digits + base := Nat.add_lt_add_left hc _
      _ = base * (value base digits + 1) := (Nat.mul_succ ..).symm
      _ ≤ base * base.pow digits.length := Nat.mul_le_mul_left _ hdigits
      _ = base.pow (digits.length + 1) := (Nat.pow_succ').symm

theorem isSome_charOfCode?_iff {n : Nat} : (charOfCode? n).isSome = true ↔ n.isValidChar := by
  rw [charOfCode?]
  split
  next h => exact iff_of_true rfl h
  next h => exact iff_of_false (by simp) h

end Radix

namespace Properties

/-- Four digits to base sixteen that are the code of a character. -/
def IsCode (digits : List Char) : Prop :=
  digits.length = 4 ∧ (∀ c ∈ digits, Radix.isDigit 16 c = true) ∧
    (Radix.value 16 digits).isValidChar

/-- A plus sign and three digits to base sixteen. -/
def IsSignedCode (digits : List Char) : Prop :=
  ∃ more, digits = '+' :: more ∧ more.length = 3 ∧ ∀ c ∈ more, Radix.isDigit 16 c = true

/-- What is read as a code. -/
def ReadsAsCode (digits : List Char) : Prop := IsCode digits ∨ IsSignedCode digits

/-- A text has an escape of a code, its backslash not escaped itself, with the given characters, up
to four, where the digits stand, and these are no code. -/
def HasMiscode (isCode : List Char → Prop) (text digits : List Char) : Prop :=
  ∃ front rest, text = front ++ '\\' :: 'u' :: rest ∧ continues front = false ∧
    digits = rest.take 4 ∧ ¬ isCode digits

variable {isCode : List Char → Prop} {text rest digits : List Char} {c : Char}

theorem charOfDigits?_signed (more : List Char) :
    charOfDigits? ('+' :: more) =
      if more.all (Radix.isDigit 16) then Radix.charOfCode? (Radix.value 16 more) else none := rfl

theorem charOfDigits?_plain (h : ∀ more, digits ≠ '+' :: more) :
    charOfDigits? digits =
      if digits.all (Radix.isDigit 16) then Radix.charOfCode? (Radix.value 16 digits)
      else none := by
  rw [charOfDigits?]
  exact h

theorem isSome_charOfDigits?_iff (h : digits.length = 4) :
    (charOfDigits? digits).isSome = true ↔ ReadsAsCode digits := by
  by_cases hsign : ∃ more, digits = '+' :: more
  · obtain ⟨more, rfl⟩ := hsign
    have hmore : more.length = 3 := by simpa using h
    have hcode : ¬ IsCode ('+' :: more) := by
      rintro ⟨-, hdigits, -⟩
      exact absurd (hdigits '+' List.mem_cons_self) (by decide)
    rw [charOfDigits?_signed, ReadsAsCode, or_iff_right hcode]
    split
    next hall =>
      rw [List.all_eq_true] at hall
      -- Three digits stay below the codes that are no characters.
      have hlt := Radix.value_lt_pow hall
      rw [hmore] at hlt
      refine iff_of_true ?_ ⟨more, rfl, hmore, hall⟩
      exact Radix.isSome_charOfCode?_iff.2 (.inl (Nat.lt_of_lt_of_le hlt (by decide)))
    next hall =>
      refine iff_of_false (by simp) ?_
      rintro ⟨more', heq, -, hdigits⟩
      cases heq
      exact hall (List.all_eq_true.2 hdigits)
  · have hsigned : ¬ IsSignedCode digits := by
      rintro ⟨more, heq, -⟩
      exact hsign ⟨more, heq⟩
    rw [charOfDigits?_plain (not_exists.1 hsign), ReadsAsCode, or_iff_left hsigned]
    split
    next hall =>
      rw [Radix.isSome_charOfCode?_iff]
      exact ⟨fun hchar => ⟨h, List.all_eq_true.1 hall, hchar⟩, fun hcode => hcode.2.2⟩
    next hall =>
      refine iff_of_false (by simp) ?_
      rintro ⟨-, hdigits, -⟩
      exact hall (List.all_eq_true.2 hdigits)

theorem readsAsCode_of_eq_some {char : Char} (hlength : digits.length = 4)
    (h : charOfDigits? digits = some char) : ReadsAsCode digits :=
  (isSome_charOfDigits?_iff hlength).1 (by rw [h]; rfl)

theorem charOfDigits?_eq_none_iff (h : digits.length = 4) :
    charOfDigits? digits = none ↔ ¬ ReadsAsCode digits := by
  rw [← isSome_charOfDigits?_iff h, Option.not_isSome_iff_eq_none]

theorem ReadsAsCode.ne_backslash (h : ReadsAsCode digits) (hc : c ∈ digits) : c ≠ '\\' := by
  have hdigit : Radix.isDigit 16 '\\' = false := by decide
  rintro rfl
  rcases h with ⟨-, hdigits, -⟩ | ⟨more, rfl, -, hdigits⟩
  · rw [hdigits _ hc] at hdigit
    cases hdigit
  · rcases List.mem_cons.1 hc with heq | hc
    · cases heq
    · rw [hdigits _ hc] at hdigit
      cases hdigit

theorem ReadsAsCode.length (h : ReadsAsCode digits) : digits.length = 4 := by
  rcases h with ⟨hlength, -, -⟩ | ⟨more, rfl, hlength, -⟩
  · exact hlength
  · rw [List.length_cons, hlength]

theorem length_lt_of_short (h : ∀ a b c d more, rest = a :: b :: c :: d :: more → False) :
    rest.length < 4 := by
  match rest with
  | [] | [_] | [_, _] | [_, _, _] => simp
  | a :: b :: c :: d :: more => exact absurd rfl (h a b c d more)

theorem not_hasMiscode_nil : ¬ HasMiscode isCode [] digits := by
  rintro ⟨front, rest, h, -⟩
  simp at h

theorem not_hasMiscode_singleton (c : Char) : ¬ HasMiscode isCode [c] digits := by
  rintro ⟨front, rest, h, -⟩
  have := congrArg List.length h
  simp at this
  omega

theorem hasMiscode_cons (hc : c ≠ '\\') :
    HasMiscode isCode (c :: text) digits ↔ HasMiscode isCode text digits := by
  constructor
  · rintro ⟨front, rest, heq, heven, hdigits⟩
    cases front with
    | nil => exact absurd (List.cons.inj heq).1 hc
    | cons d front =>
      obtain ⟨rfl, rfl⟩ := List.cons.inj heq
      rw [continues_cons hc] at heven
      exact ⟨front, rest, rfl, heven, hdigits⟩
  · rintro ⟨front, rest, rfl, heven, hdigits⟩
    exact ⟨c :: front, rest, rfl, by rwa [continues_cons hc], hdigits⟩

theorem hasMiscode_pair :
    HasMiscode isCode ('\\' :: c :: text) digits ↔
      (c = 'u' ∧ digits = text.take 4 ∧ ¬ isCode digits) ∨ HasMiscode isCode text digits := by
  constructor
  · rintro ⟨front, rest, heq, heven, hdigits⟩
    match front with
    | [] =>
      cases heq
      exact .inl ⟨rfl, hdigits⟩
    | [d] =>
      cases heq
      exact absurd heven (by decide)
    | d :: e :: front =>
      cases heq
      rw [continues_pair] at heven
      exact .inr ⟨front, rest, rfl, heven, hdigits⟩
  · rintro (⟨rfl, hdigits⟩ | ⟨front, rest, rfl, heven, hdigits⟩)
    · exact ⟨[], text, rfl, rfl, hdigits⟩
    · exact ⟨'\\' :: c :: front, rest, rfl, by rwa [continues_pair], hdigits⟩

theorem hasMiscode_append {front : List Char} (h : ∀ c ∈ front, c ≠ '\\') :
    HasMiscode isCode (front ++ text) digits ↔ HasMiscode isCode text digits := by
  induction front with
  | nil => rfl
  | cons c front ih =>
    rw [List.cons_append, hasMiscode_cons (h c List.mem_cons_self)]
    exact ih fun d hd => h d (List.mem_cons_of_mem _ hd)

theorem hasMiscode_code {a b c d char : Char} (h : charOfDigits? [a, b, c, d] = some char) :
    HasMiscode ReadsAsCode ('\\' :: 'u' :: a :: b :: c :: d :: text) digits ↔
      HasMiscode ReadsAsCode text digits := by
  have hcode : ReadsAsCode [a, b, c, d] := readsAsCode_of_eq_some rfl h
  rw [hasMiscode_pair, or_iff_right]
  · exact hasMiscode_append fun _ => hcode.ne_backslash
  · rintro ⟨-, rfl, hnot⟩
    exact hnot hcode

/-- Reading the escapes of a text takes off what stands for one character after another, and gets to
a rest. -/
inductive ReadsTo : (text read rest : List Char) → Prop
  | start {text : List Char} : ReadsTo text [] text
  | plain {c : Char} {text read rest : List Char} (hc : c ≠ '\\') (h : ReadsTo text read rest) :
      ReadsTo (c :: text) (c :: read) rest
  | escape {c : Char} {text read rest : List Char} (hc : c ≠ 'u') (h : ReadsTo text read rest) :
      ReadsTo ('\\' :: c :: text) (escaped c :: read) rest
  | code {a b c d char : Char} {text read rest : List Char}
      (hchar : charOfDigits? [a, b, c, d] = some char) (h : ReadsTo text read rest) :
      ReadsTo ('\\' :: 'u' :: a :: b :: c :: d :: text) (char :: read) rest

variable {read behind : List Char}

theorem unescape_code {a b c d char : Char} (h : charOfDigits? [a, b, c, d] = some char)
    (rest : List Char) :
    unescape ('\\' :: 'u' :: a :: b :: c :: d :: rest) = (unescape rest).map (char :: ·) := by
  rw [unescape, h]

/-- What has been read so far stays, whatever becomes of the rest. -/
theorem ReadsTo.unescape_eq (h : ReadsTo text read rest) :
    unescape text = (unescape rest).map (read ++ ·) := by
  have hcons (char : Char) (read rest : List Char) :
      ((unescape rest).map (read ++ ·)).map (char :: ·) =
        (unescape rest).map (char :: read ++ ·) := by
    cases unescape rest <;> rfl
  induction h with
  | @start text => cases unescape text <;> rfl
  | plain hc _ ih => rw [unescape_cons hc, ih, hcons]
  | escape hc _ ih => rw [unescape_escape hc, ih, hcons]
  | code hchar _ ih => rw [unescape_code hchar, ih, hcons]

theorem unescape_of_readsTo_end (h : ReadsTo text read []) : unescape text = .ok read := by
  rw [h.unescape_eq]
  exact congrArg Except.ok (List.append_nil read)

theorem unescape_miscode (h : ¬ ReadsAsCode (behind.take 4)) :
    unescape ('\\' :: 'u' :: behind) = .error (behind.take 4) := by
  match behind, h with
  | a :: b :: c :: d :: rest, h =>
    have hnone : charOfDigits? [a, b, c, d] = none := (charOfDigits?_eq_none_iff rfl).2 h
    rw [unescape, hnone]
    rfl
  | [], _ | [_], _ | [_, _], _ | [_, _, _], _ => rfl

theorem unescape_of_readsTo_miscode (h : ReadsTo text read ('\\' :: 'u' :: behind))
    (hcode : ¬ ReadsAsCode (behind.take 4)) : unescape text = .error (behind.take 4) := by
  rw [h.unescape_eq, unescape_miscode hcode]
  rfl

theorem exists_readsTo (text : List Char) : ∃ read rest, ReadsTo text read rest ∧
    (rest = [] ∨ rest = ['\\'] ∨
      ∃ behind, rest = '\\' :: 'u' :: behind ∧ ¬ ReadsAsCode (behind.take 4)) := by
  fun_induction unescape text with
  | case1 => exact ⟨[], [], .start, .inl rfl⟩
  | case2 => exact ⟨[], ['\\'], .start, .inr (.inl rfl)⟩
  | case3 a b c d text char hchar ih =>
    obtain ⟨read, rest, hreads, hstop⟩ := ih
    exact ⟨char :: read, rest, .code hchar hreads, hstop⟩
  | case4 a b c d text hchar =>
    -- Four characters stand where the code should, but they are none.
    have hcode : ¬ ReadsAsCode [a, b, c, d] := (charOfDigits?_eq_none_iff rfl).1 hchar
    exact ⟨[], _, .start, .inr (.inr ⟨_, rfl, hcode⟩)⟩
  | case5 text hshort =>
    -- There are fewer than four.
    refine ⟨[], _, .start, .inr (.inr ⟨_, rfl, ?_⟩)⟩
    intro hcode
    have hlength := length_lt_of_short fun a b c d more => hshort a b c d more rfl
    rw [List.take_of_length_le (Nat.le_of_lt hlength)] at hcode
    exact absurd hcode.length (Nat.ne_of_lt hlength)
  | case6 c text _ hc ih =>
    obtain ⟨read, rest, hreads, hstop⟩ := ih
    exact ⟨escaped c :: read, rest, .escape hc hreads, hstop⟩
  | case7 c text hlast _ hpair ih =>
    have hc : c ≠ '\\' := by
      rintro rfl
      cases text with
      | nil => exact hlast rfl rfl
      | cons d text => exact hpair d text rfl rfl
    obtain ⟨read, rest, hreads, hstop⟩ := ih
    exact ⟨c :: read, rest, .plain hc hreads, hstop⟩

theorem ReadsTo.hasMiscode_iff (h : ReadsTo text read rest) :
    HasMiscode ReadsAsCode text digits ↔ HasMiscode ReadsAsCode rest digits := by
  induction h with
  | start => rfl
  | plain hc _ ih => rw [hasMiscode_cons hc, ih]
  | escape hc _ ih => rw [hasMiscode_pair, or_iff_right fun h => hc h.1, ih]
  | code hchar _ ih => rw [hasMiscode_code hchar, ih]

/-- Reading escapes fails with what stands in the place of a code and is none; it succeeds if there
is no such place. -/
theorem unescape_cases (text : List Char) :
    (∃ read, unescape text = .ok read ∧ ∀ digits, ¬ HasMiscode ReadsAsCode text digits) ∨
      ∃ digits, unescape text = .error digits ∧ HasMiscode ReadsAsCode text digits := by
  obtain ⟨read, rest, hreads, rfl | rfl | ⟨behind, rfl, hcode⟩⟩ := exists_readsTo text
  · simp only [hreads.hasMiscode_iff]
    exact .inl ⟨read, unescape_of_readsTo_end hreads, fun _ => not_hasMiscode_nil⟩
  · simp only [hreads.hasMiscode_iff]
    exact .inl ⟨_, hreads.unescape_eq, fun _ => not_hasMiscode_singleton _⟩
  · refine .inr ⟨behind.take 4, unescape_of_readsTo_miscode hreads hcode, ?_⟩
    exact hreads.hasMiscode_iff.2 (hasMiscode_pair.2 (.inl ⟨rfl, rfl, hcode⟩))

end Properties

end Conform
