import Conform.Proofs.Regex.Ahead
import Conform.Regex.Parser

namespace Conform.Regex

variable {pattern text text' : List Char} {free : Bool} {n n' : Nat}

theorem splitFirst?_same {mark : Char} (hmark : mark ∉ closing) (h : Ahead pattern text text') :
    Same pattern (Text.splitFirst? mark text) (Text.splitFirst? mark text') := by
  induction text generalizing text' with
  | nil =>
    rcases h.nil with rfl | rfl
    · exact .of_none
    · rw [Text.splitFirst?_eq_none_iff.2 hmark]
      exact .of_none
  | cons c rest ih =>
    obtain ⟨rest', rfl, hrest⟩ := h.cons
    rw [Text.splitFirst?, Text.splitFirst?]
    by_cases hc : c = mark
    · rw [if_pos hc, if_pos hc]
      exact .of_some hrest
    · rw [if_neg hc, if_neg hc]
      exact (ih hrest).map (c :: ·)

namespace Scan

theorem hexDigits_alike (h : Ahead pattern text text') :
    Alike pattern (hexDigits free n text) (hexDigits free n text') := by
  induction n generalizing text text' with
  | zero => exact .of_some h
  | succ n ih =>
    cases text with
    | nil => exact .of_none
    | cons c rest =>
      obtain ⟨rest', rfl, hrest⟩ := h.cons
      exact .ite (fun _ => (ih (hrest.skip free)).map (c :: ·)) fun _ => .of_none

theorem upToBrace_alike {p : Char → Bool} {behind : List Char → List Char}
    (hbehind : ∀ {rest rest'}, Ahead pattern rest rest' →
      Ahead pattern (behind rest) (behind rest'))
    (hn : n ≤ n') (h : Ahead pattern text text') :
    Alike pattern (upToBrace free p behind n text) (upToBrace free p behind n' text') := by
  induction n generalizing n' text text' with
  | zero => exact .of_none
  | succ n ih =>
    obtain ⟨n', rfl⟩ := Nat.exists_eq_add_of_lt hn
    rw [upToBrace, upToBrace]
    rcases h.skip_cases free with hs | ⟨c, rest, rest', hs, hs', hrest⟩
    · rw [hs]
      exact .of_none
    · rw [hs, hs']
      exact .ite (fun _ => .of_some (hbehind hrest)) fun _ =>
        .ite (fun _ => (ih (Nat.le_add_right _ _) hrest).map (c :: ·)) fun _ => .of_none

theorem hexLiteral_counted (h : (skip free text).head? ≠ some '\x7b') :
    hexLiteral free n text = (hexDigits free n (skip free text)).bind fun r =>
      (Radix.charOfCode? (Radix.value 16 r.1)).bind fun c => some (⟨c, n = 2⟩, r.2) := by
  rw [hexLiteral]
  split
  · simp_all
  · rfl

theorem hexLiteral_alike (h : Ahead pattern text text') :
    Alike pattern (hexLiteral free n text) (hexLiteral free n text') := by
  have hs := h.skip free
  by_cases hbrace : (skip free text).head? = some '\x7b'
  · obtain ⟨rest, hskip⟩ := List.head?_eq_some_iff.1 hbrace
    obtain ⟨rest', hskip', hrest⟩ := (hskip ▸ hs).cons
    rw [hexLiteral, hexLiteral, hskip, hskip']
    exact (upToBrace_alike (·.skip free) (Nat.succ_le_succ hrest.length_le) hrest).bind
      fun digits more more' hmore => .ite (fun _ => .of_none) fun _ => by
        cases Radix.charOfCode? (Radix.value 16 digits) with
        | none => exact .of_none
        | some c => exact .of_some hmore
  · have hbrace' : (skip free text').head? ≠ some '\x7b' := fun h' =>
      hbrace ((hs.head?_iff (by decide)).1 h')
    rw [hexLiteral_counted hbrace, hexLiteral_counted hbrace']
    exact (hexDigits_alike hs).bindValue (fun digits => Radix.charOfCode? (Radix.value 16 digits))
      fun c => (⟨c, n = 2⟩ : Literal)

theorem property_alike (h : Ahead pattern text text') :
    Alike pattern (property free text) (property free text') := by
  rw [property, property]
  rcases h.skip_cases free with hs | ⟨c, rest, rest', hs, hs', hrest⟩
  · rw [hs]
    exact .of_none
  · rw [hs, hs']
    by_cases hc : c = '\x7b'
    · subst hc
      exact (upToBrace_alike id (Nat.succ_le_succ hrest.length_le) hrest).map propertyQuery
    · simp only
      exact .ite (fun _ => .of_none) fun _ => .of_some (hrest.skip free)

theorem wordBoundary_alike (h : Ahead pattern text text') :
    Alike pattern (wordBoundary free text) (wordBoundary free text') := by
  cases text with
  | nil => rcases h.nil with rfl | rfl <;> exact .of_some h
  | cons c rest =>
    obtain ⟨rest', rfl, hrest⟩ := h.cons
    by_cases hc : c = '\x7b'
    · subst hc
      rw [wordBoundary, wordBoundary]
      rcases hrest.skip_cases free with hs | ⟨d, more, more', hs, hs', hmore⟩
      · rw [hs]
        exact .of_none
      · rw [hs, hs']
        exact .ite (fun _ => (upToBrace_alike id (Nat.succ_le_succ hrest.length_le) hrest).bindValue
          boundary? id) fun _ => .of_some h
    · have hplain : ∀ more, wordBoundary free (c :: more) = some (.wordBoundary, c :: more) :=
        fun more => by simp [wordBoundary, hc]
      rw [hplain, hplain]
      exact .of_some h

theorem escape_alike (h : Ahead pattern text text') :
    Alike pattern (escape free text) (escape free text') := by
  cases text with
  | nil => exact .of_none
  | cons c rest =>
    obtain ⟨rest', rfl, hrest⟩ := h.cons
    rw [escape.eq_def, escape.eq_def]
    refine .ite (fun _ => .of_some hrest) fun _ => ?_
    split
    all_goals
      first
      | exact .of_some hrest
      | exact .of_none
      | exact (hexLiteral_alike hrest).map Primitive.literal
      | exact (property_alike hrest).map (Primitive.property · _)
      | exact (wordBoundary_alike hrest).map Primitive.assertion

end Scan

theorem Ahead.trimStart (h : Ahead pattern text text') :
    Ahead pattern (Text.trimStart text) (Text.trimStart text') :=
  h.dropWhile (by decide)

namespace Scan

/-- Digits are read up to a character that is none, and the closing begins with such a one. -/
theorem digits_ahead (free : Bool) (hn : text.length ≤ n) (hn' : n ≤ n')
    (h : Ahead pattern text text') :
    (digits free n' text').1 = (digits free n text).1 ∧
      Ahead pattern (digits free n text).2 (digits free n' text').2 := by
  induction n generalizing n' text text' with
  | zero =>
    obtain rfl := List.eq_nil_of_length_eq_zero (Nat.le_zero.1 hn)
    rcases h.nil with rfl | rfl <;> cases n' <;> exact ⟨rfl, h⟩
  | succ n ih =>
    obtain ⟨n', rfl⟩ := Nat.exists_eq_add_of_lt hn'
    cases text with
    | nil => rcases h.nil with rfl | rfl <;> exact ⟨rfl, h⟩
    | cons c rest =>
      obtain ⟨rest', rfl, hrest⟩ := h.cons
      rw [digits, digits]
      by_cases hc : isDigit c = true
      · have hlength := Nat.le_trans (skip_length_le free rest) (Nat.le_of_succ_le_succ hn)
        obtain ⟨hdigits, hahead⟩ := ih hlength (Nat.le_add_right n n') (hrest.skip free)
        simp only [if_pos hc]
        exact ⟨congrArg (c :: ·) hdigits, hahead⟩
      · rw [if_neg hc, if_neg hc]
        exact ⟨rfl, h⟩

theorem skipAfterCount_ahead (hn : text.length ≤ n) (hn' : n ≤ n')
    (h : Ahead pattern text text') :
    Ahead pattern (skipAfterCount free n text) (skipAfterCount free n' text') := by
  induction n generalizing n' text text' with
  | zero =>
    obtain rfl := List.eq_nil_of_length_eq_zero (Nat.le_zero.1 hn)
    rcases h.nil with rfl | rfl <;> cases n' <;> exact h
  | succ n ih =>
    obtain ⟨n', rfl⟩ := Nat.exists_eq_add_of_lt hn'
    cases text with
    | nil => rcases h.nil with rfl | rfl <;> exact h
    | cons c rest =>
      obtain ⟨rest', rfl, hrest⟩ := h.cons
      rw [skipAfterCount, skipAfterCount]
      by_cases hc : Text.isBlank c = true
      · simp only [if_pos hc]
        exact ih (Nat.le_trans (skip_length_le free rest) (Nat.le_of_succ_le_succ hn))
          (Nat.le_add_right n n') (hrest.skip free)
      · simp only [if_neg hc]
        exact h

theorem count_alike (h : Ahead pattern text text') :
    Alike pattern (count free text) (count free text') := by
  have ht := h.trimStart
  obtain ⟨hdigits, hrest⟩ := digits_ahead free (Nat.le_refl _) ht.length_le ht
  rw [count, count]
  generalize digits free _ (Text.trimStart text) = read at hdigits hrest ⊢
  generalize digits free _ (Text.trimStart text') = read' at hdigits hrest ⊢
  obtain ⟨ds, rest⟩ := read
  obtain ⟨ds', rest'⟩ := read'
  obtain rfl : ds' = ds := hdigits
  exact .ite (fun _ => .of_none) fun _ =>
    .of_some (skipAfterCount_ahead (Nat.le_refl _) hrest.length_le hrest)

def maxCount (free : Bool) (min : Nat) : List Char → Option (Option Nat × List Char)
  | ',' :: rest =>
    if (skip free rest).head? = some '\x7d' then some (none, skip free rest)
    else (count free (skip free rest)).map fun (max, rest) => (some max, rest)
  | text => some (some min, text)

def countsEnd (free : Bool) (min : Nat) (max : Option Nat) (text : List Char) :
    Option (((Nat × Option Nat) × Bool) × List Char) :=
  if max.any (· < min) then none
  else
    match text with
    | '\x7d' :: rest =>
      (some (greed (skip free rest))).map fun read => (((min, max), read.1), read.2)
    | _ => none

theorem counts_eq (free : Bool) (text : List Char) :
    counts free text = (count free (skip free text)).bind fun least =>
      (maxCount free least.1 least.2).bind fun most => countsEnd free least.1 most.1 most.2 := by
  rw [counts]
  refine Option.bind_congr fun least _ => ?_
  obtain ⟨min, rest⟩ := least
  simp only
  split
  · rw [maxCount]
    split
    · next heq =>
      rw [if_pos (by rw [heq]; rfl), heq]
      rfl
    · next heq =>
      rw [if_neg (by simpa [List.head?_eq_some_iff] using heq)]
      rfl
  · next hcomma =>
    rw [maxCount.eq_2 _ _ _ hcomma]
    rfl

theorem countsEnd_of_ne {min : Nat} {max : Option Nat} (h : text.head? ≠ some '\x7d') :
    countsEnd free min max text = none := by
  rw [countsEnd.eq_def]
  split
  · rfl
  · split
    · simp_all
    · rfl

theorem greed_alike (h : Ahead pattern text text') :
    Alike pattern (some (greed text)) (some (greed text')) := by
  cases text with
  | nil => rcases h.nil with rfl | rfl <;> exact .of_some h
  | cons c rest =>
    obtain ⟨rest', rfl, hrest⟩ := h.cons
    by_cases hc : c = '?'
    · subst hc
      exact .of_some hrest
    · have hplain : ∀ more, greed (c :: more) = (true, c :: more) := fun more => by
        simp [greed, hc]
      rw [hplain, hplain]
      exact .of_some h

theorem maxCount_alike {min : Nat} (h : Ahead pattern text text') :
    Alike pattern (maxCount free min text) (maxCount free min text') := by
  cases text with
  | nil => rcases h.nil with rfl | rfl <;> exact .of_some h
  | cons c rest =>
    obtain ⟨rest', rfl, hrest⟩ := h.cons
    have hs := hrest.skip free
    by_cases hc : c = ','
    · subst hc
      rw [maxCount, maxCount]
      by_cases hbrace : (skip free rest).head? = some '\x7d'
      · rw [if_pos hbrace, if_pos ((hs.head?_iff (by decide)).2 hbrace)]
        exact .of_some hs
      · rw [if_neg hbrace, if_neg fun h' => hbrace ((hs.head?_iff (by decide)).1 h')]
        exact (count_alike hs).map some
    · have hplain : ∀ more, maxCount free min (c :: more) = some (some min, c :: more) :=
        fun more => by simp [maxCount, hc]
      rw [hplain, hplain]
      exact .of_some h

theorem countsEnd_alike {min : Nat} {max : Option Nat} (h : Ahead pattern text text') :
    Alike pattern (countsEnd free min max text) (countsEnd free min max text') := by
  by_cases hbrace : text.head? = some '\x7d'
  · obtain ⟨rest, rfl⟩ := List.head?_eq_some_iff.1 hbrace
    obtain ⟨rest', rfl, hrest⟩ := h.cons
    exact .ite (fun _ => .of_none) fun _ =>
      (greed_alike (hrest.skip free)).map fun greedy => ((min, max), greedy)
  · rw [countsEnd_of_ne hbrace]
    exact .of_none

theorem counts_alike (h : Ahead pattern text text') :
    Alike pattern (counts free text) (counts free text') := by
  rw [counts_eq, counts_eq]
  exact (count_alike (h.skip free)).bind fun _ _ _ hleast =>
    (maxCount_alike hleast).bind fun _ _ _ hmost => countsEnd_alike hmost

theorem flags_alike (minus : Bool) (l : FlagList) (h : Ahead pattern text text') :
    Alike pattern (flags minus l text) (flags minus l text') := by
  induction text generalizing minus l text' with
  | nil => exact fun _ _ heq => by simp [flags] at heq
  | cons c rest ih =>
    obtain ⟨rest', rfl, hrest⟩ := h.cons
    rw [flags, flags]
    refine .ite (fun _ => .ite (fun _ => .of_none) fun _ => .of_some h) fun _ => ?_
    refine .ite (fun _ => .ite (fun _ => .of_none) fun _ => ih true l hrest) fun _ => ?_
    cases flag? c with
    | none => exact .of_none
    | some f =>
      exact .ite (fun _ => .of_none) fun _ =>
        .ite (fun _ => ih minus ⟨l.on, f :: l.off⟩ hrest) fun _ => ih minus ⟨f :: l.on, l.off⟩ hrest

theorem groupName_alike (h : Ahead pattern text text') :
    Alike pattern (groupName text) (groupName text') := by
  intro name rest heq
  rw [groupName] at heq
  split at heq
  · next c more rest hsplit =>
    obtain ⟨rest', hsplit', hrest⟩ := (splitFirst?_same (by decide) h).alike _ _ hsplit
    rw [groupName, hsplit']
    exact Alike.ite (fun _ => .of_some hrest) (fun _ => .of_none) _ _ heq
  · simp at heq

end Scan

end Conform.Regex
