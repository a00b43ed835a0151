import Conform.Proofs.Rule.Tester
import Mathlib.Logic.Function.Basic
import Mathlib.Logic.Relation

namespace Conform.Sharing

open FullMatch

abbrev Call := Value × Rule.Subject

/-- A tester behind a lock, which a caller that fails while holding it leaves broken. -/
structure Guarded where
  tester : Tester
  broken : Bool

/-- One call under the lock. Behind a broken lock nothing is looked up and nothing remembered. -/
def Guarded.answer (g : Guarded) (r : Rule) (call : Call) : Bool × Guarded :=
  if g.broken then (r.check call.1 call.2, g)
  else
    let (passes, tester) := r.checkWith g.tester call.1 call.2
    (passes, { g with tester })

def freshAnswer (r : Rule) (call : Call) : Bool := (r.checkWith .fresh call.1 call.2).1

/-- A caller with the calls that are left to it and the answers that it was given. -/
structure Caller where
  calls : List Call
  answers : List Bool

structure State (ι : Type) where
  callers : ι → Caller
  guarded : Guarded

variable {ι : Type}

def start (calls : ι → List Call) : State ι :=
  ⟨fun i => ⟨calls i, []⟩, ⟨.fresh, false⟩⟩

/-- Some caller makes its next call, or the lock breaks. -/
inductive Step [DecidableEq ι] (r : Rule) : State ι → State ι → Prop
  | call (callers : ι → Caller) (g : Guarded) (i : ι) (call : Call) (calls : List Call)
      (answers : List Bool) (h : callers i = ⟨call :: calls, answers⟩) :
      Step r ⟨callers, g⟩
        ⟨Function.update callers i ⟨calls, answers ++ [(g.answer r call).1]⟩, (g.answer r call).2⟩
  | fail (callers : ι → Caller) (tester : Tester) (broken : Bool) :
      Step r ⟨callers, ⟨tester, broken⟩⟩ ⟨callers, ⟨tester, true⟩⟩

abbrev Runs [DecidableEq ι] (r : Rule) : State ι → State ι → Prop :=
  Relation.ReflTransGen (Step r)

/-- Nothing wrong is remembered, and every caller was answered as at first what it has called. -/
structure Kept (r : Rule) (calls : ι → List Call) (state : State ι) : Prop where
  faithful : state.guarded.tester.Faithful
  answered : ∀ i, ∃ made, calls i = made ++ (state.callers i).calls ∧
    (state.callers i).answers = made.map (freshAnswer r)

variable {r : Rule} {g : Guarded}

theorem freshAnswer_eq_check (r : Rule) (call : Call) :
    freshAnswer r call = r.check call.1 call.2 :=
  Rule.checkWith_fst Tester.faithful_fresh r call.1 call.2

theorem answer_fst (h : g.tester.Faithful) (call : Call) :
    (g.answer r call).1 = freshAnswer r call := by
  rw [freshAnswer_eq_check, Guarded.answer]
  split
  next => rfl
  next => exact Rule.checkWith_fst h r call.1 call.2

theorem answer_snd (h : g.tester.Faithful) (call : Call) :
    (g.answer r call).2.tester.Faithful := by
  rw [Guarded.answer]
  split
  next => exact h
  next => exact Rule.checkWith_snd h r call.1 call.2

theorem kept_start (r : Rule) (calls : ι → List Call) : Kept r calls (start calls) where
  faithful := Tester.faithful_fresh
  answered _ := ⟨[], rfl, rfl⟩

theorem Kept.step [DecidableEq ι] {calls : ι → List Call} {state state' : State ι}
    (h : Kept r calls state) (hs : Step r state state') : Kept r calls state' := by
  cases hs with
  | call callers g i call rest answers hi =>
    refine ⟨answer_snd h.faithful call, ?_⟩
    intro j
    obtain ⟨made, hmade, hanswers⟩ := h.answered j
    dsimp only at hmade hanswers ⊢
    by_cases hj : j = i
    · subst hj
      rw [hi] at hmade hanswers
      refine ⟨made ++ [call], ?_, ?_⟩
      · rw [hmade, Function.update_self, List.append_assoc]
        rfl
      · rw [Function.update_self, List.map_append, ← hanswers, answer_fst h.faithful]
        rfl
    · rw [Function.update_of_ne hj]
      exact ⟨made, hmade, hanswers⟩
  | fail callers tester broken => exact ⟨h.faithful, h.answered⟩

theorem Kept.runs [DecidableEq ι] {calls : ι → List Call} {state state' : State ι}
    (h : Kept r calls state) (hr : Runs r state state') : Kept r calls state' := by
  induction hr with
  | refl => exact h
  | tail _ hs ih => exact ih.step hs

theorem checkAll_eq_map {tester : Tester} (h : tester.Faithful) (calls : List Call) :
    r.checkAll tester calls = calls.map (freshAnswer r) := by
  induction calls generalizing tester with
  | nil => rfl
  | cons call rest ih =>
    obtain ⟨expectation, subject⟩ := call
    have hfirst : (r.checkWith tester expectation subject).1 =
        freshAnswer r (expectation, subject) := by
      rw [freshAnswer_eq_check, Rule.checkWith_fst h]
    have hrest := ih (Rule.checkWith_snd h r expectation subject)
    change (r.checkWith tester expectation subject).1 ::
      r.checkAll (r.checkWith tester expectation subject).2 rest = _
    rw [hfirst, hrest, List.map_cons]

/-- Whatever callers share a rule and in whatever order they call it, each is answered as by a rule
that was never asked before, which is as by one that remembers nothing. So is a single caller. -/
theorem answers_of_shared [DecidableEq ι] (r : Rule) (calls : ι → List Call) :
    (∀ state, Runs r (start calls) state → ∀ i, ∃ made,
      calls i = made ++ (state.callers i).calls ∧
        (state.callers i).answers = made.map (freshAnswer r)) ∧
    (∀ sequence, r.checkAll .fresh sequence = sequence.map (freshAnswer r)) ∧
    ∀ call, freshAnswer r call = r.check call.1 call.2 := by
  refine ⟨?_, ?_, freshAnswer_eq_check r⟩
  · intro state hruns
    exact ((kept_start r calls).runs hruns).answered
  · intro sequence
    exact checkAll_eq_map Tester.faithful_fresh sequence

end Conform.Sharing
