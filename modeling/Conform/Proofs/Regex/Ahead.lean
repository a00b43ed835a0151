import Conform.Regex.Scan

namespace Conform.Regex

/-- What stands behind a pattern that is put into a group between anchors. -/
def closing : List Char := [')', '$']

/-- A number sign stands on the last line of the text. -/
def NumberSignOnLastLine (text : List Char) : Prop :=
  ∃ before comment, text = before ++ '#' :: comment ∧ '\n' ∉ comment

theorem NumberSignOnLastLine.of_suffix {text pattern : List Char}
    (h : NumberSignOnLastLine text) (hs : text <:+ pattern) : NumberSignOnLastLine pattern := by
  obtain ⟨before, comment, rfl, hc⟩ := h
  obtain ⟨lead, rfl⟩ := hs
  exact ⟨lead ++ before, comment, (List.append_assoc ..).symm, hc⟩

/-- What lies ahead of two readers at one place of a pattern, which stands alone for the first one
and before the closing for the second. -/
inductive Ahead (pattern : List Char) : (text text' : List Char) → Prop where
  | closed {text} : text <:+ pattern → Ahead pattern text (text ++ closing)
  /-- The closing has become a part of a comment. -/
  | swallowed {text} : text <:+ pattern → NumberSignOnLastLine pattern → Ahead pattern text text

namespace Ahead

variable {pattern text text' rest : List Char} {c : Char} {free : Bool}

theorem nil (h : Ahead pattern [] text') : text' = [] ∨ text' = closing := by
  cases h with
  | closed => exact .inr rfl
  | swallowed => exact .inl rfl

theorem cons (h : Ahead pattern (c :: rest) text') :
    ∃ rest', text' = c :: rest' ∧ Ahead pattern rest rest' := by
  cases h with
  | closed hs => exact ⟨rest ++ closing, rfl, .closed ((List.suffix_cons c rest).trans hs)⟩
  | swallowed hs hmark => exact ⟨rest, rfl, .swallowed ((List.suffix_cons c rest).trans hs) hmark⟩

theorem of_cons (hc : c ≠ ')') (h : Ahead pattern text (c :: rest)) :
    ∃ before, text = c :: before ∧ Ahead pattern before rest := by
  cases text with
  | nil => rcases h.nil with hnil | hnil <;> simp_all [closing]
  | cons d before =>
    obtain ⟨rest', hcons, hrest⟩ := h.cons
    obtain ⟨rfl, rfl⟩ := List.cons.inj hcons
    exact ⟨before, rfl, hrest⟩

theorem head?_iff (hc : c ≠ ')') (h : Ahead pattern text text') :
    text'.head? = some c ↔ text.head? = some c := by
  cases text with
  | nil => rcases h.nil with rfl | rfl <;> simp [closing, Ne.symm hc]
  | cons d rest =>
    obtain ⟨rest', rfl, -⟩ := h.cons
    rfl

theorem length_le (h : Ahead pattern text text') : text.length ≤ text'.length := by
  cases h with
  | closed => simp
  | swallowed => exact Nat.le_refl _

theorem dropWhile {p : Char → Bool} (hp : p ')' = false) (h : Ahead pattern text text') :
    Ahead pattern (text.dropWhile p) (text'.dropWhile p) := by
  have hs := List.dropWhile_suffix (l := text) p
  cases h with
  | swallowed h hmark => exact .swallowed (hs.trans h) hmark
  | closed h =>
    have happend : (text ++ closing).dropWhile p = text.dropWhile p ++ closing := by
      rw [List.dropWhile_append]
      cases ht : text.dropWhile p with
      | nil => simp [closing, hp]
      | cons c rest => simp
    exact happend ▸ .closed (hs.trans h)

end Ahead

namespace Scan

mutual

theorem skipBlanks_closing : ∀ text : List Char,
    skipBlanks (text ++ closing) = skipBlanks text ++ closing ∨
      skipBlanks (text ++ closing) = skipBlanks text ∧ NumberSignOnLastLine text
  | [] => .inl (by decide)
  | c :: rest => by
    have hs := List.suffix_cons c rest
    rw [List.cons_append, skipBlanks, skipBlanks]
    by_cases hb : Text.isBlank c = true
    · simp only [if_pos hb]
      exact (skipBlanks_closing rest).imp_right fun ⟨h, hmark⟩ => ⟨h, hmark.of_suffix hs⟩
    · by_cases hc : c = '#'
      · simp only [if_neg hb, if_pos hc]
        refine (skipComment_closing rest).imp_right fun ⟨h, hmark⟩ => ⟨h, ?_⟩
        rcases hmark with hline | hmark
        · exact ⟨[], rest, by rw [hc]; rfl, hline⟩
        · exact hmark.of_suffix hs
      · simp only [if_neg hb, if_neg hc]
        exact .inl rfl

theorem skipComment_closing : ∀ text : List Char,
    skipComment (text ++ closing) = skipComment text ++ closing ∨
      skipComment (text ++ closing) = skipComment text ∧
        ('\n' ∉ text ∨ NumberSignOnLastLine text)
  | [] => .inr ⟨rfl, .inl List.not_mem_nil⟩
  | c :: rest => by
    have hs := List.suffix_cons c rest
    rw [List.cons_append, skipComment, skipComment]
    by_cases hc : c = '\n'
    · simp only [if_pos hc]
      exact (skipBlanks_closing rest).imp_right fun ⟨h, hmark⟩ => ⟨h, .inr (hmark.of_suffix hs)⟩
    · simp only [if_neg hc]
      refine (skipComment_closing rest).imp_right fun ⟨h, hmark⟩ => ⟨h, ?_⟩
      exact hmark.imp (List.not_mem_cons_of_ne_of_not_mem (Ne.symm hc)) (·.of_suffix hs)

end

mutual

theorem skipBlanks_suffix : ∀ text : List Char, skipBlanks text <:+ text
  | [] => List.suffix_rfl
  | c :: rest => by
    have hs := List.suffix_cons c rest
    rw [skipBlanks]
    split
    · exact (skipBlanks_suffix rest).trans hs
    · split
      · exact (skipComment_suffix rest).trans hs
      · exact List.suffix_rfl

theorem skipComment_suffix : ∀ text : List Char, skipComment text <:+ text
  | [] => List.suffix_rfl
  | c :: rest => by
    have hs := List.suffix_cons c rest
    rw [skipComment]
    split
    · exact (skipBlanks_suffix rest).trans hs
    · exact (skipComment_suffix rest).trans hs

end

theorem skip_suffix (free : Bool) (text : List Char) : skip free text <:+ text := by
  cases free with
  | false => exact List.suffix_rfl
  | true => exact skipBlanks_suffix text

theorem skip_length_le (free : Bool) (text : List Char) :
    (skip free text).length ≤ text.length := (skip_suffix free text).length_le

@[simp] theorem skip_nil (free : Bool) : skip free [] = [] := by
  cases free <;> rfl

@[simp] theorem skip_closing (free : Bool) : skip free closing = closing := by
  cases free <;> decide

end Scan

theorem Ahead.skip {pattern text text' : List Char} (free : Bool)
    (h : Ahead pattern text text') :
    Ahead pattern (Scan.skip free text) (Scan.skip free text') := by
  have hs := Scan.skip_suffix free text
  cases h with
  | swallowed h hmark => exact .swallowed (hs.trans h) hmark
  | closed h =>
    cases free with
    | false => exact .closed h
    | true =>
      rcases Scan.skipBlanks_closing text with hskip | ⟨hskip, hmark⟩
      · exact (show Scan.skip true _ = _ from hskip) ▸ .closed (hs.trans h)
      · exact (show Scan.skip true _ = _ from hskip) ▸
          .swallowed (hs.trans h) (hmark.of_suffix h)

theorem Ahead.skip_cases {pattern text text' : List Char} (free : Bool)
    (h : Ahead pattern text text') :
    Scan.skip free text = [] ∨ ∃ c rest rest', Scan.skip free text = c :: rest ∧
      Scan.skip free text' = c :: rest' ∧ Ahead pattern rest rest' := by
  have hs := h.skip free
  cases hskip : Scan.skip free text with
  | nil => exact .inl rfl
  | cons c rest =>
    obtain ⟨rest', hskip', hrest⟩ := (hskip ▸ hs).cons
    exact .inr ⟨c, rest, rest', rfl, hskip', hrest⟩

/-- Whatever the first reading gives, the second one gives too, and the same lies ahead of both. -/
def Alike (pattern : List Char) {α : Type} (o o' : Option (α × List Char)) : Prop :=
  ∀ a rest, o = some (a, rest) → ∃ rest', o' = some (a, rest') ∧ Ahead pattern rest rest'

namespace Alike

variable {pattern : List Char} {α β : Type} {o o' : Option (α × List Char)}

theorem of_none {o' : Option (α × List Char)} : Alike pattern none o' := fun _ _ h =>
  nomatch h

theorem of_some {a : α} {rest rest' : List Char} (h : Ahead pattern rest rest') :
    Alike pattern (some (a, rest)) (some (a, rest')) := by
  intro b rest₁ heq
  obtain ⟨rfl, rfl⟩ := Prod.mk.inj (Option.some.inj heq)
  exact ⟨rest', rfl, h⟩

theorem bind {f f' : α × List Char → Option (β × List Char)} (h : Alike pattern o o')
    (hf : ∀ a rest rest', Ahead pattern rest rest' → Alike pattern (f (a, rest)) (f' (a, rest'))) :
    Alike pattern (o.bind f) (o'.bind f') := by
  intro b rest heq
  obtain ⟨⟨a, rest₁⟩, ho, hfa⟩ := Option.bind_eq_some_iff.1 heq
  obtain ⟨rest₁', ho', hrest⟩ := h a rest₁ ho
  rw [ho']
  exact hf a rest₁ rest₁' hrest b rest hfa

theorem map (f : α → β) (h : Alike pattern o o') :
    Alike pattern (o.map fun r => (f r.1, r.2)) (o'.map fun r => (f r.1, r.2)) := by
  rw [Option.map_eq_bind, Option.map_eq_bind]
  exact h.bind fun _ _ _ hrest => .of_some hrest

theorem bindValue {γ : Type} (f : α → Option γ) (g : γ → β) (h : Alike pattern o o') :
    Alike pattern (o.bind fun r => (f r.1).bind fun b => some (g b, r.2))
      (o'.bind fun r => (f r.1).bind fun b => some (g b, r.2)) := by
  refine h.bind fun a rest rest' hrest => ?_
  cases f a with
  | none => exact .of_none
  | some b => exact .of_some hrest

theorem ite {p : Prop} [Decidable p] {t e t' e' : Option (α × List Char)}
    (ht : p → Alike pattern t t') (he : ¬ p → Alike pattern e e') :
    Alike pattern (if p then t else e) (if p then t' else e') := by
  by_cases hp : p
  · simpa only [if_pos hp] using ht hp
  · simpa only [if_neg hp] using he hp

end Alike

/-- Two readings that are alike, and none together. -/
def Same (pattern : List Char) {α : Type} (o o' : Option (α × List Char)) : Prop :=
  (o = none ∧ o' = none) ∨
    ∃ a rest rest', o = some (a, rest) ∧ o' = some (a, rest') ∧ Ahead pattern rest rest'

namespace Same

variable {pattern : List Char} {α β : Type} {o o' : Option (α × List Char)}

theorem of_none : Same pattern (none : Option (α × List Char)) none := .inl ⟨rfl, rfl⟩

theorem of_some {a : α} {rest rest' : List Char} (h : Ahead pattern rest rest') :
    Same pattern (some (a, rest)) (some (a, rest')) := .inr ⟨a, rest, rest', rfl, rfl, h⟩

theorem alike (h : Same pattern o o') : Alike pattern o o' := by
  rcases h with ⟨rfl, -⟩ | ⟨a, rest, rest', rfl, rfl, hrest⟩
  · exact .of_none
  · exact .of_some hrest

theorem bind {f f' : α × List Char → Option (β × List Char)} (h : Same pattern o o')
    (hf : ∀ a rest rest', Ahead pattern rest rest' → Same pattern (f (a, rest)) (f' (a, rest'))) :
    Same pattern (o.bind f) (o'.bind f') := by
  rcases h with ⟨rfl, rfl⟩ | ⟨a, rest, rest', rfl, rfl, hrest⟩
  · exact .of_none
  · exact hf a rest rest' hrest

theorem map (f : α → β) (h : Same pattern o o') :
    Same pattern (o.map fun r => (f r.1, r.2)) (o'.map fun r => (f r.1, r.2)) := by
  rw [Option.map_eq_bind, Option.map_eq_bind]
  exact h.bind fun _ _ _ hrest => .of_some hrest

end Same

end Conform.Regex
