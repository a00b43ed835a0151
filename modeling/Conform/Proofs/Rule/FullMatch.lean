import Conform.Constraint
import Conform.Proofs.Regex.Parser
import Conform.Proofs.Regex.Spans

namespace Conform

namespace Regex

variable {text : List Char} {e : Expression} {p q : Pattern}

/-- Flags in an expression end with the group around it, so the anchors stand for the start and the
end of the text. -/
theorem pattern?_anchored :
    e.anchored.pattern? .default =
      (e.pattern? .default).map fun read => (read.1.whole, .default) := by
  have hflags : Mode.default.apply .none = .default := rfl
  simp only [Expression.anchored, Expression.pattern?, Expression.patterns?, hflags]
  cases e.pattern? .default with
  | none => rfl
  | some read => rfl

/-- The conditions under which a pattern that is well formed alone is so between anchors. -/
structure Anchorable (text : List Char) : Prop where
  closed : ¬ Expression.EndsInComment text
  shallow : ∀ e, Expression.parse? text = some e → e.depth + 2 ≤ Expression.nestingLimit

theorem parse?_eq_some_iff : parse? text = some p ↔
    ∃ e mode, Expression.parse? text = some e ∧ e.pattern? .default = some (p, mode) := by
  simp [parse?, Option.bind_eq_some_iff]

theorem parse?_anchored_iff (hp : parse? text = some p) :
    parse? ('^' :: '(' :: '?' :: ':' :: (text ++ closing)) = some q ↔
      Anchorable text ∧ q = p.whole := by
  obtain ⟨e, mode, he, hpattern⟩ := parse?_eq_some_iff.1 hp
  have hwhole : e.anchored.pattern? .default = some (p.whole, .default) := by
    rw [pattern?_anchored, hpattern]
    rfl
  rw [parse?_eq_some_iff]
  constructor
  · rintro ⟨e', mode', he', hq⟩
    obtain ⟨hclosed, hshallow, rfl⟩ := (Expression.parse?_anchored he).1 he'
    rw [hwhole] at hq
    obtain ⟨rfl, -⟩ := Prod.mk.inj (Option.some.inj hq)
    refine ⟨⟨hclosed, fun e₁ he₁ => ?_⟩, rfl⟩
    rwa [Option.some.inj (he₁.symm.trans he)]
  · rintro ⟨h, rfl⟩
    exact ⟨e.anchored, .default,
      (Expression.parse?_anchored he).2 ⟨h.closed, h.shallow e he, rfl⟩, hwhole⟩

theorem compile?_eq_some_iff {text : String} {regex : Regex} : compile? text = some regex ↔
    parse? text.toList = some regex.pattern ∧ Automaton.fits regex.pattern = true := by
  constructor
  · intro h
    obtain ⟨p, hp, hcompile⟩ := Option.bind_eq_some_iff.1 h
    split at hcompile
    · next hfits =>
      obtain rfl := Option.some.inj hcompile
      exact ⟨hp, hfits⟩
    · cases hcompile
  · rintro ⟨hp, hfits⟩
    rw [compile?, hp]
    exact if_pos hfits

end Regex

namespace FullMatch

open Regex (closing Anchorable)

variable {pattern text : String} {regex : Regex}

theorem toList_anchored (pattern : String) :
    (anchored pattern).toList = '^' :: '(' :: '?' :: ':' :: (pattern.toList ++ closing) := by
  simp [anchored, closing]

theorem compile?_of_none (h : Regex.compile? pattern = none) : compile? pattern = none := by
  rw [compile?, h]
  rfl

/-- What a pattern compiles to for whole texts, given what it compiles to alone. -/
theorem compile?_iff {whole : Regex} (h : Regex.compile? pattern = some regex) :
    compile? pattern = some whole ↔ (Anchorable pattern.toList ∧
      Regex.Automaton.fits regex.pattern.whole = true) ∧ whole = ⟨regex.pattern.whole⟩ := by
  have hparse := (Regex.compile?_eq_some_iff.1 h).1
  have hcompile : compile? pattern = Regex.compile? (anchored pattern) := by
    rw [compile?, h]
    rfl
  rw [hcompile, Regex.compile?_eq_some_iff, toList_anchored, Regex.parse?_anchored_iff hparse]
  obtain ⟨q⟩ := whole
  constructor
  · rintro ⟨⟨hanchor, rfl⟩, hfits⟩
    exact ⟨⟨hanchor, hfits⟩, rfl⟩
  · rintro ⟨⟨hanchor, hfits⟩, heq⟩
    obtain rfl := Regex.mk.inj heq
    exact ⟨⟨hanchor, rfl⟩, hfits⟩

theorem isSome_compile?_iff (h : Regex.compile? pattern = some regex) :
    (compile? pattern).isSome = true ↔
      Anchorable pattern.toList ∧ Regex.Automaton.fits regex.pattern.whole = true := by
  simp [Option.isSome_iff_exists, compile?_iff h]

theorem test_iff (h : Regex.compile? pattern = some regex) :
    test pattern text = true ↔
      (compile? pattern).isSome = true ∧ regex.pattern.Spans text.toList.toArray 0 text.length := by
  rw [test]
  cases hcompile : compile? pattern with
  | none => simp
  | some whole =>
    obtain ⟨-, rfl⟩ := (compile?_iff h).1 hcompile
    simp [Regex.isMatch, Regex.Pattern.isMatch_whole, String.length_toList]

end FullMatch

namespace Rule

/-- A pattern that is malformed is a misconfiguration. One that is well formed is accepted if it
still is so between anchors, and then a text passes exactly if the pattern has a match that spans
it. -/
theorem matches_by_spans (pattern : String) :
    (Regex.compile? pattern = none → ∀ key source,
      Constraint.misconfiguration? ⟨key, «matches», .text pattern, source⟩ =
        some (.misconfigured "matches" (.text pattern) source)) ∧
    ∀ regex, Regex.compile? pattern = some regex →
      (Rule.matches.accepts (.text pattern) = true ↔
        Regex.Anchorable pattern.toList ∧ Regex.Automaton.fits regex.pattern.whole = true) ∧
      ∀ config key text, Rule.matches.check (.text pattern) ⟨config, key, .text text⟩ = true ↔
        Rule.matches.accepts (.text pattern) = true ∧
          regex.pattern.Spans text.toList.toArray 0 text.length := by
  have haccepts : Rule.matches.accepts (.text pattern) = (FullMatch.compile? pattern).isSome := rfl
  refine ⟨fun h key source => ?_, fun regex h => ⟨?_, fun config key text => ?_⟩⟩
  · rw [Constraint.misconfiguration?, haccepts, FullMatch.compile?_of_none h]
    rfl
  · rw [haccepts, FullMatch.isSome_compile?_iff h]
  · rw [haccepts]
    exact FullMatch.test_iff h

theorem matches_by_spans_multiLine :
    ∃ regex, Regex.compile? "(?m)a$|b" = some regex ∧
      regex.pattern.Spans "b".toList.toArray 0 1 ∧
      ¬ regex.pattern.Spans "a\nb".toList.toArray 0 3 := by
  have hcompile : (Regex.compile? "(?m)a$|b").isSome = true := by decide +kernel
  have haccepts : Rule.matches.accepts (.text "(?m)a$|b") = true := by decide +kernel
  obtain ⟨regex, h⟩ := Option.isSome_iff_exists.1 hcompile
  have hcheck := ((matches_by_spans "(?m)a$|b").2 regex h).2 .empty "name"
  refine ⟨regex, h, ((hcheck "b").1 (by decide +kernel)).2, fun hspans => ?_⟩
  have hpasses := (hcheck "a\nb").2 ⟨haccepts, hspans⟩
  exact absurd hpasses (by decide +kernel)

/-- A pattern that ends in a comment is well formed, but the closing that is put behind it falls
into the comment. -/
theorem matches_refuses_commented :
    (∃ regex, Regex.compile? "(?x)[a-z]+ # lower case" = some regex ∧
      Regex.Automaton.fits regex.pattern.whole = true) ∧
    Rule.matches.accepts (.text "(?x)[a-z]+ # lower case") = false := by
  have hfits : (Regex.compile? "(?x)[a-z]+ # lower case").any
      (fun regex => Regex.Automaton.fits regex.pattern.whole) = true := by decide +kernel
  refine ⟨?_, by decide +kernel⟩
  simpa [Option.any_eq_true] using hfits

end Rule

end Conform
