import Conform.Document.Properties

namespace Conform.Properties

/-- The characters at which a key ends. -/
def endsKey (c : Char) : Bool := isSeparator c || isBlank c

/-- The text that written characters stand for, if those that are marks stand only behind a
backslash. -/
inductive Spells (marks : Char → Bool) : (written text : List Char) → Prop
  | nil : Spells marks [] []
  | plain {c : Char} {written text : List Char} (hc : c ≠ '\\') (hm : marks c = false)
      (h : Spells marks written text) : Spells marks (c :: written) (c :: text)
  | escape {c : Char} {written text : List Char} (hc : c ≠ 'u') (h : Spells marks written text) :
      Spells marks ('\\' :: c :: written) (escaped c :: text)

variable {marks : Char → Bool} {c : Char} {written written' text text' : List Char}

theorem Spells.append (h : Spells marks written text) (h' : Spells marks written' text') :
    Spells marks (written ++ written') (text ++ text') := by
  induction h with
  | nil => exact h'
  | plain hc hm _ ih => exact .plain hc hm ih
  | escape hc _ ih => exact .escape hc ih

theorem Spells.weaken (h : Spells marks written text) : Spells (fun _ => false) written text := by
  induction h with
  | nil => exact .nil
  | plain hc _ _ ih => exact .plain hc rfl ih
  | escape hc _ ih => exact .escape hc ih

theorem Spells.flatMap {code : Char → List Char} (h : ∀ c, Spells marks (code c) [c])
    (text : List Char) : Spells marks (text.flatMap code) text := by
  induction text with
  | nil => exact .nil
  | cons c rest ih => exact (h c).append ih

theorem unescape_cons (hc : c ≠ '\\') (rest : List Char) :
    unescape (c :: rest) = (unescape rest).map (c :: ·) := by
  rw [unescape] <;> simp [hc]

theorem unescape_escape (hc : c ≠ 'u') (rest : List Char) :
    unescape ('\\' :: c :: rest) = (unescape rest).map (escaped c :: ·) := by
  rw [unescape, if_neg hc]
  intro _ _ _ _ _ he
  exact absurd he hc

theorem Spells.unescape (h : Spells marks written text) : unescape written = .ok text := by
  induction h with
  | nil => rfl
  | plain hc _ _ ih => rw [unescape_cons hc, ih]; rfl
  | escape hc _ ih => rw [unescape_escape hc, ih]; rfl

def trailing (line : List Char) : Nat := (line.reverse.takeWhile (· = '\\')).length

theorem trailing_le (line : List Char) : trailing line ≤ line.length := by
  have h := (List.takeWhile_sublist (p := (· = '\\')) (l := line.reverse)).length_le
  simpa [trailing] using h

theorem trailing_cons (c : Char) (line : List Char) :
    trailing (c :: line) =
      if c = '\\' ∧ trailing line = line.length then trailing line + 1 else trailing line := by
  simp only [trailing, List.reverse_cons, List.takeWhile_append, List.length_reverse]
  by_cases hl : (line.reverse.takeWhile (· = '\\')).length = line.length
  · by_cases hc : c = '\\' <;> simp [hl, hc]
  · simp [hl]

/-- A backslash and the character behind it leave the parity of the run at the end. -/
theorem trailing_pair (c : Char) (line : List Char) :
    trailing ('\\' :: c :: line) % 2 = trailing line % 2 := by
  have hle := trailing_le line
  have htail := trailing_cons c line
  rw [trailing_cons, List.length_cons]
  by_cases hrun : c = '\\' ∧ trailing line = line.length
  · rw [if_pos hrun] at htail
    rw [if_pos ⟨rfl, by omega⟩]
    omega
  · rw [if_neg hrun] at htail
    rw [if_neg (by omega)]
    omega

theorem continues_cons (hc : c ≠ '\\') (line : List Char) :
    continues (c :: line) = continues line := by
  change (trailing (c :: line) % 2 == 1) = (trailing line % 2 == 1)
  rw [trailing_cons, if_neg fun h => hc h.1]

theorem continues_pair (c : Char) (line : List Char) :
    continues ('\\' :: c :: line) = continues line := by
  change (trailing ('\\' :: c :: line) % 2 == 1) = (trailing line % 2 == 1)
  rw [trailing_pair]

theorem Spells.trailing_even (h : Spells marks written text) : trailing written % 2 = 0 := by
  induction h with
  | nil => rfl
  | plain hc _ _ ih => rwa [trailing_cons, if_neg fun h => hc h.1]
  | escape _ _ ih => rwa [trailing_pair]

theorem Spells.not_continues (h : Spells marks written text) : continues written = false := by
  change (trailing written % 2 == 1) = false
  rw [h.trailing_even]
  rfl

theorem Spells.splitKey (h : Spells endsKey written text) (hc : endsKey c = true)
    (rest : List Char) : splitKey (written ++ c :: rest) = (written, c :: rest) := by
  induction h with
  | nil =>
    have hb : c ≠ '\\' := by
      rintro rfl
      exact absurd hc (by decide)
    cases rest with
    | nil => simp only [List.nil_append, Properties.splitKey]; exact if_pos hc
    | cons d rest => simp only [List.nil_append, Properties.splitKey, if_neg hb]; exact if_pos hc
  | @plain d written text hd hm h ih =>
    have hm' : ¬ (isSeparator d || isBlank d) = true := by simpa [endsKey] using hm
    obtain ⟨e, more, he⟩ : ∃ e more, written ++ c :: rest = e :: more := by
      cases written <;> exact ⟨_, _, rfl⟩
    rw [List.cons_append, he, Properties.splitKey, if_neg hd, if_neg hm', ← he, ih]
  | escape _ _ ih => simp only [List.cons_append, Properties.splitKey, if_pos, ih]

theorem Spells.quote (hc : escaped c = c) (hu : c ≠ 'u') : Spells marks ['\\', c] [c] := by
  have h : Spells marks ['\\', c] [escaped c] := .escape hu .nil
  rwa [hc] at h

theorem escape_spells (hm : escape c = [c] → marks c = false) : Spells marks (escape c) [c] := by
  unfold Properties.escape at hm ⊢
  split at hm
  · exact .quote (by decide) (by decide)
  · exact .escape (c := 't') (by decide) .nil
  · exact .escape (c := 'n') (by decide) .nil
  · exact .escape (c := 'r') (by decide) .nil
  · exact .escape (c := 'f') (by decide) .nil
  next hc _ _ _ _ => exact .plain hc (hm rfl) .nil

theorem escapeInKey_spells (c : Char) : Spells endsKey (escapeInKey c) [c] := by
  unfold escapeInKey
  split
  next hc =>
    simp only [isSeparator, Bool.or_eq_true, decide_eq_true_eq] at hc
    rcases hc with (rfl | rfl) | rfl <;> exact .quote (by decide) (by decide)
  next hc =>
    apply escape_spells
    intro he
    have ht : c ≠ '\t' := by
      rintro rfl
      exact absurd he (by decide)
    have hf : c ≠ '\x0c' := by
      rintro rfl
      exact absurd he (by decide)
    rw [not_or] at hc
    simp [endsKey, isBlank, hc.1, hc.2, ht, hf]

theorem renderKey_spells (key : List Char) : Spells endsKey (renderKey key) key := by
  cases key with
  | nil => exact .nil
  | cons c rest =>
    rw [renderKey]
    change Spells endsKey _ ([c] ++ rest)
    apply Spells.append ?_ (.flatMap escapeInKey_spells rest)
    split
    next hc => rcases hc with rfl | rfl <;> exact .quote (by decide) (by decide)
    next => exact escapeInKey_spells c

theorem renderValue_spells (value : List Char) :
    Spells (fun _ => false) (renderValue value) value := by
  cases value with
  | nil => exact .nil
  | cons c rest =>
    rw [renderValue]
    change Spells (fun _ => false) _ ([c] ++ rest)
    apply Spells.append ?_ (.flatMap (fun _ => escape_spells fun _ => rfl) rest)
    split
    next hc => exact hc ▸ .quote (by decide) (by decide)
    next => exact escape_spells fun _ => rfl

end Conform.Properties
