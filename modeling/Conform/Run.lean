import Conform.Load
import Conform.Settings.Basic
import Conform.Validation

namespace Conform

/-- What a run came to; findings about sources are first. -/
structure Report where
  config : Config
  findings : List Finding

namespace Report

def isValid (r : Report) : Bool := r.findings.isEmpty

def ofKind (r : Report) (kind : Finding.Kind) : List Finding :=
  r.findings.filter (·.kind = kind)

end Report

structure Run where
  loader : Loader
  /-- The specifications of each source of them. -/
  specifications : List Specification
  validation : Validation
  /-- What is selected in the sources that select no profile. -/
  profile : Option String

namespace Run

def ofRegistry (registry : Registry) : Run := ⟨⟨registry, ∅, []⟩, [], .default, none⟩

def withStrict (r : Run) (strict : Bool) : Run :=
  { r with validation := r.validation.withStrict strict }

def withWorkers (r : Run) (n : Nat) : Run := { r with validation := r.validation.withWorkers n }

def ofSettings (s : Settings) (registry : Registry) : Run :=
  let run := { ofRegistry registry with profile := s.validation.profile }
  (run.withStrict s.validation.strict).withWorkers s.validation.parallelism

def withBase (r : Run) (base : Config) : Run := { r with loader.base := base }

def withSource (r : Run) (path : String) (profile : Option String) : Run :=
  { r with loader.sources := r.loader.sources ++ [⟨path, profile <|> r.profile⟩] }

def withSpecification (r : Run) (s : Specification) : Run :=
  { r with specifications := r.specifications ++ [s] }

def finish (r : Run) (outcome : LoadOutcome) : Report where
  config := outcome.config
  findings :=
    outcome.findings ++ r.validation.run outcome.config (.aggregate r.specifications)

def execute (r : Run) (files : FileTree) : Report := r.finish (r.loader.load files)

def executeConcurrent (r : Run) (files : FileTree) : Report :=
  r.finish (r.loader.loadConcurrent files)

end Run

end Conform
