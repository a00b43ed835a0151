import Conform.Proofs.Validation.Batches
import Conform.Proofs.Validation.Coverage

namespace Conform

namespace Specification

variable {s t : Specification}

end Specification

namespace Validation

def judge (workers : Nat) (config : Config) (constraints : List Constraint) : List Finding :=
  (batches workers constraints).flatMap (evaluateBatch config)

theorem run_eq_judge (v : Validation) (config : Config) (spec : Specification) :
    v.run config spec = spec.findings ++ judge v.workers config spec.constraints ++
      if v.strict then coverage config spec else [] :=
  rfl

end Validation

end Conform
