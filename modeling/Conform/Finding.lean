import Conform.Load.Failure
import Conform.SourceLine
import Conform.Value.Text

namespace Conform

inductive FactoryFailure where
  | load (failure : LoadFailure)
  | other (text : String)
deriving DecidableEq

namespace FactoryFailure

def message : FactoryFailure → String
  | load failure => failure.message
  | other text => text

end FactoryFailure

inductive Finding where
  /-- A value fails a constraint that applies to it. -/
  | violated (key : String) (value : Value) (rule : String) (expectation : Value)
      (source : SourceLine)
  /-- The expectation of a constraint is not one that its rule accepts. -/
  | misconfigured (rule : String) (expectation : Value) (source : SourceLine)
  | loadFailed (file factory : String) (cause : FactoryFailure)
  | noFactory (file : String)
  /-- Keys in order that no constraint speaks about. -/
  | unspecified (keys : List String)
  | unknownRule (name key : String) (source : SourceLine)
  | invalidPattern (pattern reason : String) (source : SourceLine)

namespace Finding

inductive Kind where
  | load | authoring | misconfiguration | violation | coverage
deriving DecidableEq

def kind : Finding → Kind
  | violated .. => .violation
  | misconfigured .. => .misconfiguration
  | loadFailed .. | noFactory .. => .load
  | unspecified .. => .coverage
  | unknownRule .. | invalidPattern .. => .authoring

/-- The message code; the code of a constraint names its rule. -/
def code : Finding → String
  | violated _ _ rule _ _ => "kanon.constraint." ++ rule ++ ".violated"
  | misconfigured rule _ _ => "kanon.constraint." ++ rule ++ ".misconfigured"
  | loadFailed .. => "kanon.file.load.failed"
  | noFactory .. => "kanon.file.factory.missing"
  | unspecified .. => "kanon.keys.unspecified"
  | unknownRule .. => "kanon.specification.constraint.unknown"
  | invalidPattern .. => "kanon.specification.key.invalid"

/-- The message code where no template exists for `code`. -/
def defaultCode : Finding → String
  | violated .. => "kanon.constraint.violated"
  | misconfigured .. => "kanon.constraint.misconfigured"
  | loadFailed .. | noFactory .. => "kanon.file.error"
  | unspecified .. => "kanon.keys.unspecified"
  | unknownRule .. | invalidPattern .. => "kanon.specification.error"

def sourceArguments (s : SourceLine) : List Value := [.text s.file, .ofNat s.line]

def arguments : Finding → List Value
  | violated key value _ expectation source =>
    .text key :: value :: expectation :: sourceArguments source
  | misconfigured rule expectation source => .text rule :: expectation :: sourceArguments source
  | loadFailed file factory cause => [.text file, .text factory, .text cause.message]
  | noFactory file => [.text file]
  | unspecified keys => [.list (keys.map .text)]
  | unknownRule name key source => .text name :: .text key :: sourceArguments source
  | invalidPattern pattern reason source => .text pattern :: .text reason :: sourceArguments source

def key? : Finding → Option String
  | violated key .. | unknownRule _ key _ => some key
  | _ => none

def source? : Finding → Option SourceLine
  | violated _ _ _ _ source | misconfigured _ _ source | unknownRule _ _ source
  | invalidPattern _ _ source => some source
  | loadFailed .. | noFactory .. | unspecified .. => none

def cause? : Finding → Option LoadFailure
  | loadFailed _ _ (.load failure) => some failure
  | _ => none

def display : Finding → String
  | violated key value rule expectation source =>
    "value '" ++ value.display ++ "' of '" ++ key ++ "' violates " ++ rule ++ " [" ++
      expectation.display ++ "] declared at " ++ source.display
  | misconfigured rule expectation source =>
    rule ++ " constraint declared at " ++ source.display ++ " has invalid expectation [" ++
      expectation.display ++ "]"
  | loadFailed file factory cause =>
    "failed to load " ++ file ++ " with " ++ factory ++ " factory: " ++ cause.message
  | noFactory file => "no configuration factory supports " ++ file
  | unspecified keys => "keys without specification: " ++ String.intercalate ", " keys
  | unknownRule name key source =>
    "unknown constraint '" ++ name ++ "' on '" ++ key ++ "' at " ++ source.display
  | invalidPattern pattern reason source =>
    "invalid key pattern '" ++ pattern ++ "' at " ++ source.display ++ ": " ++ reason

end Finding

end Conform
