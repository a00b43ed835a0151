import Conform.Proofs.Json.Reader
import Conform.Proofs.Nesting.Keys
import Conform.Proofs.Store.Merge

namespace Conform

open NumberLiteral

/-- The value of an integer: an integer of 64 bits if it is in their range, a decimal otherwise. -/
def Value.ofInt (n : Int) : Value :=
  if -2 ^ 63 ≤ n ∧ n ≤ 2 ^ 63 - 1 then .integer (.ofInt n) else .decimal (.ofInt n)

namespace Json

/-- Digits that do not begin with a zero, or a zero alone. -/
structure WholeDigits (digits : List Char) : Prop where
  ne_nil : digits ≠ []
  numeral : Numeral digits
  zero : digits.head? = some '0' → digits = ['0']

/-- A text is an integer of a JSON document, and this integer. -/
inductive IntegerLiteral : List Char → Int → Prop
  | plain {digits : List Char} (h : WholeDigits digits) :
      IntegerLiteral digits (Nat.ofDigitChars 10 digits 0)
  | minus {digits : List Char} (h : WholeDigits digits) :
      IntegerLiteral ('-' :: digits) (-(Nat.ofDigitChars 10 digits 0 : Nat))

section Literal

variable {text digits rest : List Char} {n : Int}

theorem IntegerLiteral.exists_sign (h : IntegerLiteral text n) :
    ∃ negative digits, WholeDigits digits ∧ text = Binary64.signText negative ++ digits ∧
      n = if negative then -(Nat.ofDigitChars 10 digits 0 : Int)
        else Nat.ofDigitChars 10 digits 0 := by
  cases h with
  | plain h => exact ⟨false, _, h, rfl, rfl⟩
  | minus h => exact ⟨true, _, h, rfl, rfl⟩

theorem integerLiteral_signText (negative : Bool) (h : WholeDigits digits) :
    IntegerLiteral (Binary64.signText negative ++ digits)
      (if negative then -(Nat.ofDigitChars 10 digits 0 : Int) else Nat.ofDigitChars 10 digits 0) := by
  cases negative with
  | true => exact .minus h
  | false => exact .plain h

theorem IntegerLiteral.isDigit_or_minus (h : IntegerLiteral text n) {c : Char} (hc : c ∈ text) :
    isDigit c = true ∨ c = '-' := by
  cases h with
  | plain h => exact .inl (h.numeral c hc)
  | minus h => exact (List.mem_cons.1 hc).symm.imp_left (h.numeral c)

theorem IntegerLiteral.ne_nil (h : IntegerLiteral text n) : text ≠ [] := by
  cases h with
  | plain h => exact h.ne_nil
  | minus h => exact List.cons_ne_nil _ _

theorem wholeDigits_toDigits (n : Nat) : WholeDigits (Nat.toDigits 10 n) where
  ne_nil := Nat.toDigits_ne_nil
  numeral := numeral_toDigits n
  zero := by
    induction n using Nat.strongRecOn with
    | ind n ih =>
      intro hzero
      by_cases hn : n < 10
      · rw [Nat.toDigits_of_lt_base hn] at hzero ⊢
        rw [List.head?_cons, Option.some_inj] at hzero
        rw [hzero]
      · rw [Nat.toDigits_of_base_le (by decide) (by omega),
          List.head?_append_of_ne_nil _ Nat.toDigits_ne_nil] at hzero
        have hq := ih (n / 10) (by omega) hzero
        have hvalue := congrArg (Nat.ofDigitChars 10 · 0) hq
        rw [Nat.ofDigitChars_ten_toDigits] at hvalue
        have hzero : n / 10 = 0 := hvalue
        omega

theorem integerLiteral_integerText (n : Int) : IntegerLiteral (Decimal.integerText n) n := by
  have h := integerLiteral_signText (decide (n < 0)) (wholeDigits_toDigits n.natAbs)
  have hn : (if decide (n < 0) = true then -(n.natAbs : Int) else n.natAbs) = n := by
    split_ifs with hneg
    · rw [decide_eq_true_eq] at hneg
      omega
    · rw [decide_eq_true_eq] at hneg
      omega
  rwa [Nat.ofDigitChars_ten_toDigits, hn, ← signText_eq] at h

theorem readInteger?_literal (h : IntegerLiteral text n) : readInteger? text = some n := by
  obtain ⟨negative, digits, hd, rfl, rfl⟩ := h.exists_sign
  exact readInteger?_numeral negative hd.numeral hd.ne_nil

theorem ofChars?_literal (h : IntegerLiteral text n) : Decimal.ofChars? text = some (.ofInt n) := by
  obtain ⟨negative, digits, hd, rfl, rfl⟩ := h.exists_sign
  have hread := read?_whole negative hd.numeral hd.ne_nil ends_nil
  rw [List.append_nil] at hread
  rw [Decimal.ofChars?, hread, readExponent?, Option.map_some, Option.bind_some, Decimal.ofLiteral?]
  simp only [List.length_nil, Nat.cast_zero, sub_zero, NumberLiteral.digits, List.append_nil]
  rfl

theorem numberValue_literal {literal : String} (h : IntegerLiteral literal.toList n) :
    numberValue literal = .ofInt n := by
  have hvalue := numberValue_of_readInteger? (readInteger?_literal h) (ofChars?_literal h)
    fun _ => h.isDigit_or_minus
  rw [String.ofList_toList] at hvalue
  have hfits : Integer.fits n = true ↔ -2 ^ 63 ≤ n ∧ n ≤ 2 ^ 63 - 1 := by
    rw [Integer.fits, Bool.and_eq_true, decide_eq_true_eq, decide_eq_true_eq]
    omega
  rw [hvalue, Integer.ofInt?, Value.ofInt]
  by_cases h : Integer.fits n = true
  · rw [if_pos h, if_pos (hfits.1 h)]
  · rw [if_neg h, if_neg (h ∘ hfits.2)]

end Literal

namespace Token

/-- The rest of a text does not continue a number. -/
def Stops (rest : List Char) : Prop :=
  ∀ c ∈ rest.head?, isDigit c = false ∧ c ≠ '.' ∧ c ≠ 'e' ∧ c ≠ 'E'

variable {text digits rest : List Char} {n : Int}

theorem whole_append (h : WholeDigits digits) (hr : Stops rest) :
    whole (digits ++ rest) = some (digits, rest) := by
  have hdigit : ∀ c ∈ rest.head?, isDigit c = false := fun c hc => (hr c hc).1
  rw [whole.eq_def]
  split
  next after heq =>
    have hzero : digits = ['0'] := by
      apply h.zero
      rw [← List.head?_append_of_ne_nil digits h.ne_nil, heq, List.head?_cons]
    rw [hzero] at heq ⊢
    cases heq
    rfl
  next =>
    have hne : digits.isEmpty = false := by simp [h.ne_nil]
    rw [Token.digits]
    change (if ((digits ++ rest).takeWhile NumberLiteral.isDigit).isEmpty then none
      else some ((digits ++ rest).takeWhile NumberLiteral.isDigit,
        (digits ++ rest).dropWhile NumberLiteral.isDigit)) = _
    rw [takeWhile_numeral h.numeral hdigit, dropWhile_numeral h.numeral hdigit, hne]
    rfl

theorem fraction_of_stops (h : Stops rest) : fraction rest = some ([], rest) := by
  rw [fraction.eq_def]
  split
  next after => exact absurd rfl (h '.' rfl).2.1
  next => rfl

theorem exponent_of_stops (h : Stops rest) : exponent rest = some ([], rest) := by
  rw [exponent.eq_def]
  split
  next => rfl
  next c after =>
    obtain ⟨-, -, hsmall, hcapital⟩ := h c rfl
    rw [if_neg (by simp [hsmall, hcapital])]

theorem minus_signText (negative : Bool) (h : WholeDigits digits) (rest : List Char) :
    minus (Binary64.signText negative ++ (digits ++ rest)) =
      (Binary64.signText negative, digits ++ rest) := by
  cases negative with
  | true => rfl
  | false =>
    change minus (digits ++ rest) = ([], digits ++ rest)
    rw [minus.eq_def]
    split
    next after heq =>
      have hhead : digits.head? = some '-' := by
        rw [← List.head?_append_of_ne_nil digits h.ne_nil, heq, List.head?_cons]
      exact absurd (h.numeral '-' (List.mem_of_mem_head? hhead)) (by decide)
    next => rfl

theorem numberText_literal (h : IntegerLiteral text n) (hr : Stops rest) :
    numberText (text ++ rest) = some (text, rest) := by
  obtain ⟨negative, digits, hd, rfl, -⟩ := h.exists_sign
  rw [numberText, List.append_assoc, minus_signText negative hd]
  simp only [whole_append hd hr, fraction_of_stops hr, exponent_of_stops hr, Option.bind_eq_bind,
    Option.bind_some, Option.pure_def, List.append_nil]

theorem next_literal (h : IntegerLiteral text n) (hr : Stops rest) :
    next (text ++ rest) = some (number text, rest) := by
  obtain ⟨c, more, rfl⟩ := List.exists_cons_of_ne_nil h.ne_nil
  have hc : NumberLiteral.isDigit c = true ∨ c = '-' := h.isDigit_or_minus List.mem_cons_self
  have hnumber := numberText_literal h hr
  rw [next.eq_def]
  split
  case h_11 => rw [hnumber, Option.map_some]
  all_goals
    next heq =>
      rw [(List.cons.inj heq).1] at hc
      exact absurd hc (by decide)

end Token

section Reading

variable {literal : String} {members : List (String × Json)}

theorem placedIn_append (front back : List (String × Json)) :
    placedIn (front ++ back) = placedIn front ++ placedIn back := by
  induction front with
  | nil => rfl
  | cons member front ih =>
    rw [List.cons_append, placedIn, ih, placedIn, List.append_assoc]

/-- The way to a number first goes by names to a value that is no object, and then into it. -/
theorem exists_placed_of_at? {document : Json} {path : List Value.Step}
    (h : document.at? path = some (number literal)) :
    ∃ names inner value before after, path = names.map .entry ++ inner ∧
      value.at? inner = some (numberValue literal) ∧
      document.placed = before ++ (names, value) :: after := by
  induction path generalizing document with
  | nil =>
    rw [at?, Option.some_inj] at h
    rw [h]
    exact ⟨[], [], numberValue literal, [], [], rfl, rfl, rfl⟩
  | cons step path ih =>
    have hvalue := at?_toValue h
    rw [at?.eq_def] at h
    split at h
    next => contradiction
    next items index _ heq =>
      cases heq
      exact ⟨[], _, _, [], [], rfl, hvalue, rfl⟩
    next members name _ heq =>
      cases heq
      split at h
      next member hmember =>
        obtain ⟨names, inner, value, before, after, rfl, hinner, hplaced⟩ := ih h
        obtain ⟨front, back, rfl, -⟩ := List.lookup_eq_some_iff.1 hmember
        let below (e : List String × Value) := (name :: e.1, e.2)
        refine ⟨name :: names, inner, value, placedIn front ++ before.map below,
          after.map below ++ placedIn back, rfl, hinner, ?_⟩
        rw [placed, placedIn_append, placedIn, hplaced, List.map_append, List.map_cons,
          List.append_assoc, List.append_assoc, List.cons_append]
      next => cases h
    next => cases h

theorem get?_toConfig_of_placed {names : List String} {value : Value}
    {before after : List (List String × Value)}
    (h : placedIn members = before ++ (names, value) :: after)
    (hlast : ∀ e ∈ after, Nesting.flatKey e.1 ≠ Nesting.flatKey names) :
    (object members).toConfig.get? (Nesting.flatKey names) = some value := by
  have hflat := (Nesting.flatten_of_leavesOf (leavesOf_toEntries "" members)).eq_flat
  rw [toConfig, hflat, h, List.map_append, List.map_cons]
  apply Store.get?_ofList_of_last
  rw [List.map_map, List.mem_map]
  rintro ⟨e, he, hkey⟩
  exact hlast e he hkey

end Reading

section Writing

theorem at?_ofConfig {c : Config} (hflat : ∀ entry ∈ c.entries, entry.2.isMap = false)
    {key : String} (hk : c.Kept key) {value found : Value} (hv : c.get? key = some value)
    {path : List Value.Step} (hfound : value.at? path = some found) :
    (ofConfig c).at? ((segments key).map .entry ++ path) = some (ofValue found) := by
  have hleaf : Nesting.leaf? (.map (Nesting.nest c)) (segments key) = some value := by
    apply (Nesting.leaf?_writeAll_iff hflat c.distinct (segments key) value).2
    refine ⟨⟨(key, value), Store.get?_eq_some_iff.1 hv, rfl, rfl⟩, fun entry he habove => ?_⟩
    exact hk entry.1 (List.mem_map_of_mem he) (Nesting.above_segments_iff.1 habove)
  have hfind : (Value.map (Nesting.nest c)).at? ((segments key).map .entry) = some value :=
    (Option.filter_eq_some_iff.1 hleaf).1
  have hat : (Value.map (Nesting.nest c)).at? ((segments key).map .entry ++ path) = some found := by
    rw [Value.at?_append, hfind, Option.bind_some, hfound]
  rw [ofConfig, ← ofValue]
  exact at?_ofValue hat

theorem ofValue_ofInt (n : Int) :
    ofValue (.ofInt n) = number (String.ofList (Decimal.integerText n)) := by
  rw [Value.ofInt]
  split
  next h => rw [ofValue, Int64.toInt_ofInt_of_le h.1 (by omega)]
  next =>
    have hwhole : (Decimal.ofInt n).IsWhole := .inr ⟨by simp [Decimal.ofInt], le_rfl⟩
    have hn : (Decimal.ofInt n).whole = n := by
      rw [Decimal.whole, Decimal.ofInt]
      exact mul_one n
    rw [ofValue, ← String.ofList_toList (s := decimalText _), toList_decimalText,
      Decimal.charsWith_of_isWhole hwhole, hn]

end Writing

theorem value_ofInt (n : Int) : ∃ d, (Value.ofInt n).toDecimal? = some d ∧ d.value = n := by
  refine ⟨.ofInt n, ?_, Decimal.value_ofInt n⟩
  rw [Value.ofInt]
  split
  next h =>
    change some (Decimal.ofInt (Int64.ofInt n).toInt) = _
    rw [Int64.toInt_ofInt_of_le h.1 (by omega)]
  next => rfl

/-- A number keeps its text: it is one token, a document is read from its tokens, and wherever the
number stands in a document that was read, it was read from its text. -/
structure KeepsText (literal : String) : Prop where
  token : ∀ rest, Token.Stops rest →
    Token.next (literal.toList ++ rest) = some (.number literal.toList, rest)
  read : ∀ (source : String) (document : Json) (rep : Repetition),
    Token.all? source.toList = some document.tokens → Readable Reader.nestingLimit document →
      parse? source rep = some document
  verbatim : ∀ (source : String) (document : Json) (rep : Repetition) (path : List Value.Step),
    parse? source rep = some document → document.at? path = some (number literal) →
      ∃ before rest, source.toList = before ++ (literal.toList ++ rest) ∧
        Token.next (literal.toList ++ rest) = some (.number literal.toList, rest)

/-- Wherever a number stands in a document, this is its value there; and the configuration of the
document holds it, unless a later value of the document has the same key. -/
structure ReadAs (literal : String) (value : Value) : Prop where
  inDocument : ∀ (document : Json) (path : List Value.Step),
    document.at? path = some (number literal) → document.toValue.at? path = some value
  inConfig : ∀ (members : List (String × Json)) (path : List Value.Step),
    (object members).at? path = some (number literal) →
      ∃ names inner found before after, path = names.map .entry ++ inner ∧
        found.at? inner = some value ∧ placedIn members = before ++ (names, found) :: after ∧
        ((∀ e ∈ after, Nesting.flatKey e.1 ≠ Nesting.flatKey names) →
          (object members).toConfig.get? (Nesting.flatKey names) = some found)

/-- Wherever a value stands in another, this is the text of its number there; so it is in the
document of a configuration, unless another key lies below its key. -/
structure WrittenAs (value : Value) (literal : String) : Prop where
  inDocument : ∀ (whole : Value) (path : List Value.Step),
    whole.at? path = some value → (ofValue whole).at? path = some (number literal)
  inConfig : ∀ (c : Config) (key : String) (whole : Value) (path : List Value.Step),
    (∀ entry ∈ c.entries, entry.2.isMap = false) → c.Kept key → c.get? key = some whole →
      whole.at? path = some value →
        (ofConfig c).at? ((segments key).map .entry ++ path) = some (number literal)

/-- Integers of documents are exact: they keep their text when a document is read, their value is
the integer, and they are written as integers again. -/
theorem integers_exact {literal : String} {n : Int} (h : IntegerLiteral literal.toList n) :
    KeepsText literal ∧ ReadAs literal (.ofInt n) ∧
      (∃ d, (Value.ofInt n).toDecimal? = some d ∧ d.value = n) ∧
      ∃ written : String, IntegerLiteral written.toList n ∧ WrittenAs (.ofInt n) written := by
  have hmark : 'e' ∉ literal.toList := by
    intro hmem
    rcases h.isDigit_or_minus hmem with hc | hc <;> exact absurd hc (by decide)
  have hvalue := numberValue_literal h
  refine ⟨⟨fun rest => Token.next_literal h, ?_, ?_⟩, ⟨?_, ?_⟩, value_ofInt n,
    String.ofList (Decimal.integerText n), ?_, ⟨?_, ?_⟩⟩
  · exact fun source document rep htokens hr => parse?_of_tokens htokens hr rep
  · exact fun source document rep path hparse hat => exists_next_of_at? hparse hat hmark
  · intro document path hat
    rw [at?_toValue hat, toValue, hvalue]
  · intro members path hat
    obtain ⟨names, inner, found, before, after, hpath, hfound, hplaced⟩ := exists_placed_of_at? hat
    rw [placed] at hplaced
    rw [hvalue] at hfound
    exact ⟨names, inner, found, before, after, hpath, hfound, hplaced,
      get?_toConfig_of_placed hplaced⟩
  · rw [String.toList_ofList]
    exact integerLiteral_integerText n
  · intro whole path hat
    rw [at?_ofValue hat, ofValue_ofInt]
  · intro c key whole path hflat hk hget hat
    rw [at?_ofConfig hflat hk hget hat, ofValue_ofInt]

/-- The first integer that has more than 64 bits, in an object in a list. -/
def quotas : Json := object [("quotas", array [object [("disk", number "9223372036854775808")]])]

def quotasPath : List Value.Step := [.entry "quotas", .element 0, .entry "disk"]

def quotasText : String := "\x7b\"quotas\": [\x7b\"disk\": 9223372036854775808\x7d]\x7d"

def quotasValue : Value := .list [.map [("disk", .decimal ⟨9223372036854775808, 0⟩)]]

def quotasConfig : Config := .ofList [("quotas", quotasValue)]

theorem integers_exact_quotas :
    IntegerLiteral "9223372036854775808".toList 9223372036854775808 ∧
    parse? quotasText = some quotas ∧
    (∃ before rest, quotasText.toList = before ++ ("9223372036854775808".toList ++ rest)) ∧
    quotas.toConfig.get? "quotas" = some quotasValue ∧
    ∃ written : String, IntegerLiteral written.toList 9223372036854775808 ∧
      (ofConfig quotasConfig).at? quotasPath = some (number written) := by
  have h : IntegerLiteral "9223372036854775808".toList 9223372036854775808 :=
    .plain ⟨by decide, List.all_eq_true.1 (by decide), by decide⟩
  obtain ⟨hkeeps, hread, -, written, hliteral, hwritten⟩ := integers_exact h
  have htokens : Token.all? quotasText.toList = some quotas.tokens := by decide +kernel
  have hreadable : Readable 127 quotas := by
    refine .object (by decide) (List.forall_mem_singleton.2 (.array ?_))
    refine List.forall_mem_singleton.2 (.object (by decide) ?_)
    exact List.forall_mem_singleton.2 (.leaf nofun nofun)
  have hparse := hkeeps.read quotasText quotas .replaces htokens hreadable
  have hat : quotas.at? quotasPath = some (number "9223372036854775808") := rfl
  obtain ⟨before, rest, hsource, -⟩ := hkeeps.verbatim _ _ _ _ hparse hat
  have hconfig : quotas.toConfig.get? "quotas" = some quotasValue := by
    obtain ⟨names, inner, found, front, back, -, -, hplaced, hget⟩ := hread.inConfig _ _ hat
    have hone : placedIn [("quotas", array [object [("disk", number "9223372036854775808")]])] =
        [(["quotas"], quotasValue)] := rfl
    rw [hone, List.singleton_eq_append_iff] at hplaced
    rcases hplaced with ⟨-, hentry⟩ | ⟨-, hnone⟩
    · cases hentry
      exact hget nofun
    · cases hnone
  have hdocument := hwritten.inConfig quotasConfig "quotas" quotasValue
    [.element 0, .entry "disk"] (by decide) (by decide) rfl rfl
  exact ⟨h, hparse, ⟨before, rest, hsource⟩, hconfig, written, hliteral, hdocument⟩

end Json

end Conform
