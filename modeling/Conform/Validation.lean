import Conform.Specification

namespace Conform

structure Validation where
  strict : Bool
  workers : Nat
  positive : 0 < workers

namespace Validation

def default : Validation := ⟨false, 1, by omega⟩

def withStrict (v : Validation) (strict : Bool) : Validation := { v with strict := strict }

def withWorkers (v : Validation) (n : Nat) : Validation := ⟨v.strict, max n 1, by omega⟩

def pieces {α : Type} (size : Nat) (items : List α) : List (List α) :=
  if _ : 0 < size ∧ 0 < items.length then items.take size :: pieces size (items.drop size) else []
termination_by items.length
decreasing_by simp only [List.length_drop]; omega

/-- A list dealt out in order to the given number of workers at most. -/
def batches {α : Type} (workers : Nat) (items : List α) : List (List α) :=
  let workers := min workers items.length
  if workers ≤ 1 then [items] else pieces ((items.length + workers - 1) / workers) items

def evaluateBatch (config : Config) (batch : List Constraint) : List Finding :=
  batch.flatMap (·.evaluate config)

def coverage (config : Config) (spec : Specification) : List Finding :=
  match spec.unspecified config with
  | [] => []
  | keys => [.unspecified keys]

/-- All findings: those of the specification itself, those of each constraint, and the one about
keys without constraint. -/
def run (v : Validation) (config : Config) (spec : Specification) : List Finding :=
  spec.findings ++ (batches v.workers spec.constraints).flatMap (evaluateBatch config) ++
    if v.strict then coverage config spec else []

end Validation

end Conform
