import Conform.Rule

namespace Conform

namespace FullMatch.Tester

/-- What is remembered of a pattern is what the pattern compiles to. -/
def Faithful (tester : Tester) : Prop :=
  ∀ source regex, tester.last? = some (source, regex) → compile? source = some regex

variable {tester : Tester}

theorem faithful_fresh : Faithful fresh := by
  intro source regex h
  cases h

theorem anew_fst (tester : Tester) (pattern text : String) :
    (test.anew tester pattern text).1 = FullMatch.test pattern text := by
  rw [test.anew, FullMatch.test]
  cases compile? pattern <;> rfl

theorem Faithful.anew (h : tester.Faithful) (pattern text : String) :
    (test.anew tester pattern text).2.Faithful := by
  rw [test.anew]
  split
  next regex hcompile =>
    intro source regex' hlast
    cases hlast
    exact hcompile
  next => exact h

theorem Faithful.test_fst (h : tester.Faithful) (pattern text : String) :
    (tester.test pattern text).1 = FullMatch.test pattern text := by
  rw [Tester.test]
  split
  next source regex hlast =>
    split
    next heq =>
      rw [FullMatch.test, ← heq, h source regex hlast]
    next => exact anew_fst tester pattern text
  next => exact anew_fst tester pattern text

theorem Faithful.test_snd (h : tester.Faithful) (pattern text : String) :
    (tester.test pattern text).2.Faithful := by
  rw [Tester.test]
  split
  next =>
    split
    next => exact h
    next => exact h.anew pattern text
  next => exact h.anew pattern text

end FullMatch.Tester

namespace Rule

open FullMatch

variable {tester : Tester}

theorem checkWith_fst (h : tester.Faithful) (r : Rule) (expectation : Value) (subject : Subject) :
    (r.checkWith tester expectation subject).1 = r.check expectation subject := by
  rw [checkWith.eq_def]
  split
  next pattern text hvalue =>
    rw [h.test_fst, check.eq_def]
    simp only [hvalue]
  next => rfl

theorem checkWith_snd (h : tester.Faithful) (r : Rule) (expectation : Value) (subject : Subject) :
    (r.checkWith tester expectation subject).2.Faithful := by
  rw [checkWith.eq_def]
  split
  next pattern text _ => exact h.test_snd pattern text
  next => exact h

end Rule

end Conform
