import Conform.Load
import Mathlib.Logic.Relation

namespace Conform

def Task.isRunning : Task → Bool
  | running _ _ => true
  | done _ => false

theorem Task.result_spawn (registry : Registry) (files : FileTree) (context : Config)
    (source : Source) :
    (Task.spawn registry source).result files context =
      Loader.loadSource registry files context source := by
  rw [Task.spawn, Loader.loadSource]
  cases registry.resolve source.path <;> rfl

namespace Loader

theorem loadConcurrent_eq (l : Loader) (files : FileTree) :
    l.loadConcurrent files =
      (l.sources.map (loadSource l.registry files l.base)).foldl step ⟨l.base, []⟩ := by
  have hresults : (l.sources.map (Task.spawn l.registry)).map (Task.result files l.base) =
      l.sources.map (loadSource l.registry files l.base) := by
    rw [List.map_map]
    exact List.map_congr_left fun source _ => Task.result_spawn l.registry files l.base source
  rw [loadConcurrent, hresults]

/-- Where loading side by side has come to: the outcome of the tasks that were waited for, the other
tasks, and the sources without a task. -/
structure Pool where
  outcome : LoadOutcome
  tasks : List Task
  sources : List Source

namespace Pool

def start (l : Loader) : Pool := ⟨⟨l.base, []⟩, [], l.sources⟩

def IsFinished (pool : Pool) : Prop := pool.tasks = [] ∧ pool.sources = []

/-- Any task that is under way may end. The first is waited for once every source has its task. -/
inductive Step (l : Loader) (files : FileTree) : Pool → Pool → Prop
  | spawn (outcome : LoadOutcome) (tasks : List Task) (source : Source) (rest : List Source) :
      Step l files ⟨outcome, tasks, source :: rest⟩
        ⟨outcome, tasks ++ [.spawn l.registry source], rest⟩
  | finish (outcome : LoadOutcome) (before after : List Task) (sources : List Source)
      (factory : Factory) (source : Source) :
      Step l files ⟨outcome, before ++ .running factory source :: after, sources⟩
        ⟨outcome, before ++ .done (factory.convert files l.base source) :: after, sources⟩
  | join (outcome : LoadOutcome) (result : Except Finding Config) (tasks : List Task) :
      Step l files ⟨outcome, .done result :: tasks, []⟩ ⟨Loader.step outcome result, tasks, []⟩

abbrev Runs (l : Loader) (files : FileTree) : Pool → Pool → Prop :=
  Relation.ReflTransGen (Step l files)

/-- What a pool comes to if every task is waited for at once. -/
def settled (l : Loader) (files : FileTree) (pool : Pool) : LoadOutcome :=
  (pool.tasks.map (Task.result files l.base) ++
    pool.sources.map (loadSource l.registry files l.base)).foldl Loader.step pool.outcome

def work (pool : Pool) : Nat :=
  3 * pool.sources.length + pool.tasks.length + pool.tasks.countP Task.isRunning

variable {l : Loader} {files : FileTree} {pool pool' : Pool}

theorem settled_step (h : Step l files pool pool') :
    pool'.settled l files = pool.settled l files := by
  cases h with
  | spawn outcome tasks source rest =>
    rw [settled, settled, List.map_append, List.map_cons, List.map_cons, Task.result_spawn,
      List.append_assoc]
    rfl
  | finish outcome before after sources factory source =>
    -- A task comes to the same result before and after its end.
    rw [settled, settled, List.map_append, List.map_append]
    rfl
  | join outcome result tasks => rfl

theorem settled_runs (h : Runs l files pool pool') :
    pool'.settled l files = pool.settled l files := by
  induction h with
  | refl => rfl
  | tail _ hs ih => exact (settled_step hs).trans ih

theorem settled_of_finished (h : pool.IsFinished) : pool.settled l files = pool.outcome := by
  rw [settled, h.1, h.2]
  rfl

theorem settled_start (l : Loader) (files : FileTree) :
    (start l).settled l files = l.loadConcurrent files := by
  rw [loadConcurrent_eq]
  rfl

theorem work_lt (h : Step l files pool pool') : pool'.work < pool.work := by
  cases h with
  | spawn outcome tasks source rest =>
    have hcount : [Task.spawn l.registry source].countP Task.isRunning ≤ 1 := List.countP_le_length
    simp only [work, List.length_cons, List.length_append, List.countP_append, List.length_nil]
    omega
  | finish outcome before after sources factory source =>
    simp [work, List.countP_cons, Task.isRunning]
  | join outcome result tasks =>
    simp [work, Task.isRunning]

theorem wellFounded_step (l : Loader) (files : FileTree) :
    WellFounded fun pool' pool => Step l files pool pool' :=
  Subrelation.wf work_lt (measure work).wf

theorem exists_step (l : Loader) (files : FileTree) (h : ¬ pool.IsFinished) :
    ∃ pool', Step l files pool pool' := by
  obtain ⟨outcome, tasks, sources⟩ := pool
  cases sources with
  | cons source rest => exact ⟨_, .spawn outcome tasks source rest⟩
  | nil =>
    cases tasks with
    | nil => exact absurd ⟨rfl, rfl⟩ h
    | cons task rest =>
      cases task with
      | running factory source => exact ⟨_, .finish outcome [] rest [] factory source⟩
      | done result => exact ⟨_, .join outcome result rest⟩

/-- Whatever has happened so far, loading can go on to its end. -/
theorem exists_finished (l : Loader) (files : FileTree) (pool : Pool) :
    ∃ final, Runs l files pool final ∧ final.IsFinished := by
  induction pool using (wellFounded_step l files).induction with
  | _ pool ih =>
    by_cases hf : pool.IsFinished
    · exact ⟨pool, .refl, hf⟩
    · obtain ⟨next, hs⟩ := exists_step l files hf
      obtain ⟨final, hr, hfinal⟩ := ih next hs
      exact ⟨final, .head hs hr, hfinal⟩

theorem outcome_of_runs (h : Runs l files (start l) pool) (hf : pool.IsFinished) :
    pool.outcome = l.loadConcurrent files := by
  rw [← settled_of_finished hf, settled_runs h, settled_start]

end Pool

end Loader

end Conform
