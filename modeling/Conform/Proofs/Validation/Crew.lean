import Conform.Proofs.Rule.Tester
import Conform.Proofs.Validation.Batches
import Mathlib.Data.List.Basic
import Mathlib.Logic.Function.Basic
import Mathlib.Logic.Relation

namespace Conform

/-- A single piece of work: a misconfiguration to report, or a value to check. -/
inductive Job where
  | report (finding : Finding)
  | check (c : Constraint) (key : String) (value : Value)

namespace Job

def perform (config : Config) (tester : FullMatch.Tester) : Job → Option Finding × FullMatch.Tester
  | report finding => (some finding, tester)
  | check c key value =>
    if c.skips value then (none, tester)
    else
      let (passes, tester) := c.rule.checkWith tester c.expectation ⟨config, key, value⟩
      (if passes then none else some (.violated key value c.rule.name c.expectation c.source), tester)

def finding? (config : Config) : Job → Option Finding
  | report finding => some finding
  | check c key value => c.checkValue config key value

variable {config : Config} {tester : FullMatch.Tester}

theorem perform_fst (h : tester.Faithful) (job : Job) :
    (job.perform config tester).1 = job.finding? config := by
  cases job with
  | report finding => rfl
  | check c key value =>
    rw [perform, finding?, Constraint.checkValue]
    cases hskips : c.skips value with
    | true => rfl
    | false =>
      rw [if_neg Bool.false_ne_true, Bool.false_or, ← Rule.checkWith_fst h]

theorem perform_snd (h : tester.Faithful) (job : Job) :
    (job.perform config tester).2.Faithful := by
  cases job with
  | report finding => exact h
  | check c key value =>
    rw [perform]
    split
    next => exact h
    next => exact Rule.checkWith_snd h c.rule c.expectation ⟨config, key, value⟩

end Job

namespace Constraint

/-- The jobs of a constraint: its misconfiguration alone, or a check of each value it is for. -/
def jobs (config : Config) (c : Constraint) : List Job :=
  match c.misconfiguration? with
  | some finding => [.report finding]
  | none => (c.pattern.targets config).map fun (key, value) => .check c key value

theorem filterMap_jobs (config : Config) (c : Constraint) :
    (c.jobs config).filterMap (Job.finding? config) = c.evaluate config := by
  rw [jobs, evaluate]
  cases c.misconfiguration? with
  | some finding => rfl
  | none =>
    rw [List.filterMap_map]
    rfl

end Constraint

namespace Validation

structure Worker where
  jobs : List Job
  found : List Finding

/-- Workers side by side, and the testers that the rules they use remember patterns with. -/
structure Crew where
  workers : List Worker
  testers : Nat → FullMatch.Tester

namespace Crew

def start (config : Config) (testers : Nat → FullMatch.Tester)
    (batches : List (List Constraint)) : Crew :=
  ⟨batches.map fun batch => ⟨batch.flatMap (Constraint.jobs config), []⟩, testers⟩

def IsFinished (crew : Crew) : Prop := ∀ worker ∈ crew.workers, worker.jobs = []

def findings (crew : Crew) : List Finding := crew.workers.flatMap Worker.found

/-- Some worker does its next job. Which tester the job uses is left open, so that any rules may be
the same one. -/
inductive Step (config : Config) : Crew → Crew → Prop
  | work (before after : List Worker) (job : Job) (jobs : List Job) (found : List Finding)
      (testers : Nat → FullMatch.Tester) (i : Nat) :
      Step config ⟨before ++ ⟨job :: jobs, found⟩ :: after, testers⟩
        ⟨before ++ ⟨jobs, found ++ (job.perform config (testers i)).1.toList⟩ :: after,
          Function.update testers i (job.perform config (testers i)).2⟩

abbrev Runs (config : Config) : Crew → Crew → Prop := Relation.ReflTransGen (Step config)

def Faithful (crew : Crew) : Prop := ∀ i, (crew.testers i).Faithful

/-- What a crew comes to if every job that is left is done on its own. -/
def settled (config : Config) (crew : Crew) : List Finding :=
  crew.workers.flatMap fun worker => worker.found ++ worker.jobs.filterMap (Job.finding? config)

def work (crew : Crew) : Nat := (crew.workers.flatMap Worker.jobs).length

variable {config : Config} {crew crew' : Crew}

theorem faithful_step (h : crew.Faithful) (hs : Step config crew crew') : crew'.Faithful := by
  cases hs with
  | work before after job jobs found testers i =>
    intro j
    change (Function.update testers i (job.perform config (testers i)).2 j).Faithful
    by_cases hj : j = i
    · rw [hj, Function.update_self]
      exact Job.perform_snd (h i) job
    · rw [Function.update_of_ne hj]
      exact h j

theorem settled_step (h : crew.Faithful) (hs : Step config crew crew') :
    crew'.settled config = crew.settled config := by
  cases hs with
  | work before after job jobs found testers i =>
    have hperform : (job.perform config (testers i)).1 = job.finding? config :=
      Job.perform_fst (h i) job
    have hworker : found ++ (job.perform config (testers i)).1.toList ++
        jobs.filterMap (Job.finding? config) =
          found ++ (job :: jobs).filterMap (Job.finding? config) := by
      rw [hperform, List.filterMap_cons, List.append_assoc]
      cases job.finding? config <;> rfl
    rw [settled, settled, List.flatMap_append, List.flatMap_append, List.flatMap_cons,
      List.flatMap_cons, hworker]

theorem settled_runs (h : crew.Faithful) (hr : Runs config crew crew') :
    crew'.settled config = crew.settled config ∧ crew'.Faithful := by
  induction hr with
  | refl => exact ⟨rfl, h⟩
  | tail _ hs ih => exact ⟨(settled_step ih.2 hs).trans ih.1, faithful_step ih.2 hs⟩

theorem settled_of_finished (h : crew.IsFinished) : crew.settled config = crew.findings := by
  rw [settled, findings]
  apply List.flatMap_congr
  intro worker hworker
  rw [h worker hworker, List.filterMap_nil, List.append_nil]

theorem settled_start (config : Config) (testers : Nat → FullMatch.Tester)
    (batches : List (List Constraint)) :
    (start config testers batches).settled config =
      batches.flatten.flatMap (·.evaluate config) := by
  rw [← flatMap_evaluateBatch, settled, start, List.flatMap_map]
  apply List.flatMap_congr
  intro batch _
  rw [List.nil_append, List.filterMap_flatMap, evaluateBatch]
  apply List.flatMap_congr
  intro c _
  exact c.filterMap_jobs config

theorem work_step (hs : Step config crew crew') : crew'.work < crew.work := by
  cases hs with
  | work before after job jobs found testers i =>
    simp [Crew.work]

theorem exists_step (config : Config) (h : ¬ crew.IsFinished) :
    ∃ crew', Step config crew crew' := by
  obtain ⟨workers, testers⟩ := crew
  simp only [IsFinished, not_forall] at h
  obtain ⟨⟨jobs, found⟩, hworker, hjobs⟩ := h
  obtain ⟨before, after, rfl⟩ := List.append_of_mem hworker
  cases jobs with
  | nil => exact absurd rfl hjobs
  | cons job jobs => exact ⟨_, .work before after job jobs found testers 0⟩

/-- Whatever turns the workers have taken, they can go on to their end. -/
theorem exists_finished (config : Config) (crew : Crew) :
    ∃ final, Runs config crew final ∧ final.IsFinished := by
  induction crew using (measure work).wf.induction with
  | _ crew ih =>
    by_cases hf : crew.IsFinished
    · exact ⟨crew, .refl, hf⟩
    · obtain ⟨next, hs⟩ := exists_step config hf
      obtain ⟨final, hr, hfinal⟩ := ih next (work_step hs)
      exact ⟨final, .head hs hr, hfinal⟩

end Crew

/-- The findings are the same for every number of workers. The batches are the constraints in their
order, no more of them than workers were asked for, and every run of workers over them that share
testers can be brought to its end, at which they have found what one worker finds. -/
theorem run_withWorkers (v : Validation) (config : Config) (spec : Specification) (n : Nat) :
    let dealt := batches (v.withWorkers n).workers spec.constraints
    (v.withWorkers n).run config spec = (v.withWorkers 1).run config spec ∧
    dealt.flatten = spec.constraints ∧
    dealt.length ≤ max 1 n ∧
    ∀ testers, (∀ i, (testers i).Faithful) →
      ∀ crew, Crew.Runs config (Crew.start config testers dealt) crew →
        (∃ final, Crew.Runs config crew final ∧ final.IsFinished) ∧
        (crew.IsFinished →
          spec.findings ++ crew.findings ++ (if v.strict then coverage config spec else []) =
            (v.withWorkers 1).run config spec) := by
  intro dealt
  have hdealt : dealt.flatten = spec.constraints := flatten_batches _ _
  have hlength : dealt.length ≤ max 1 n := by
    have hle : dealt.length ≤ max 1 (max n 1) := length_batches_le _ _
    omega
  refine ⟨?_, hdealt, hlength, ?_⟩
  · rw [run_eq, run_eq]
    rfl
  · intro testers htesters crew hruns
    refine ⟨Crew.exists_finished config crew, ?_⟩
    intro hfinished
    have hstart : (Crew.start config testers dealt).Faithful := htesters
    have hsettled := (Crew.settled_runs hstart hruns).1
    rw [Crew.settled_of_finished hfinished, Crew.settled_start, hdealt] at hsettled
    rw [hsettled, run_eq]
    rfl

end Validation

end Conform
