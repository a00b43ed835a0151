import Conform.Load.Factory

namespace Conform

structure Source where
  path : String
  profile : Option String
deriving DecidableEq

/-- What loading came to: the configuration of the sources that could be read, and a finding for
each of the others. -/
structure LoadOutcome where
  config : Config
  findings : List Finding

namespace LoadOutcome

def isClean (o : LoadOutcome) : Bool := o.findings.isEmpty

end LoadOutcome

structure Loader where
  registry : Registry
  base : Config
  sources : List Source

def Factory.convert (factory : Factory) (files : FileTree) (context : Config) (source : Source) :
    Except Finding Config :=
  match factory.create files source.path source.profile context with
  | .ok fragment => .ok fragment
  | .error failure => .error (.loadFailed source.path factory.name (.load failure))

/-- A conversion beside others: under way, or done. One that no factory supports is done at once. -/
inductive Task where
  | running (factory : Factory) (source : Source)
  | done (result : Except Finding Config)

namespace Task

def spawn (registry : Registry) (source : Source) : Task :=
  match registry.resolve source.path with
  | .ok factory => running factory source
  | .error finding => done (.error finding)

def result (files : FileTree) (context : Config) : Task → Except Finding Config
  | running factory source => factory.convert files context source
  | done result => result

end Task

namespace Loader

def loadSource (registry : Registry) (files : FileTree) (context : Config) (source : Source) :
    Except Finding Config := do
  let factory ← registry.resolve source.path
  factory.convert files context source

def step (outcome : LoadOutcome) (result : Except Finding Config) : LoadOutcome :=
  match result with
  | .ok fragment => { outcome with config := outcome.config.merge fragment }
  | .error finding => { outcome with findings := outcome.findings ++ [finding] }

/-- Loads one source after another; each can refer to the sources before it. -/
def load (l : Loader) (files : FileTree) : LoadOutcome :=
  l.sources.foldl
    (fun outcome source => step outcome (loadSource l.registry files outcome.config source))
    ⟨l.base, []⟩

/-- Loads all sources side by side; each can refer to the base alone. The results are taken in the
order of the sources. -/
def loadConcurrent (l : Loader) (files : FileTree) : LoadOutcome :=
  ((l.sources.map (Task.spawn l.registry)).map (Task.result files l.base)).foldl step ⟨l.base, []⟩

end Loader

end Conform
