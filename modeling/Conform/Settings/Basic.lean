import Conform.Log.Config

namespace Conform

inductive LogFormat where
  | json
  | pretty
deriving DecidableEq

namespace LogFormat

def name : LogFormat → String
  | json => "json"
  | pretty => "pretty"

def ofName? (name : String) : Option LogFormat := [json, pretty].find? (·.name = name)

end LogFormat

structure ValidationSettings where
  strict : Bool
  parallelism : Nat
  profile : Option String
deriving DecidableEq

structure LoggingSettings where
  enabled : Bool
  level : String
  format : LogFormat
deriving DecidableEq

structure Settings where
  validation : ValidationSettings
  logging : LoggingSettings
deriving DecidableEq

def ValidationSettings.default : ValidationSettings := ⟨false, 1, none⟩

def LoggingSettings.default : LoggingSettings := ⟨true, "info", .json⟩

inductive VariableProblem where
  | unknownSetting
  | notFlag
  | notCount
  | notFormat
deriving DecidableEq

def VariableProblem.reason : VariableProblem → String
  | unknownSetting => "unknown setting"
  | notFlag => "expected boolean"
  | notCount => "expected integer"
  | notFormat => "expected 'json' or 'pretty'"

inductive SettingsFailure where
  | fileNotFound (path : String)
  | unreadable (path : String)
  | malformedToml
  | malformedJson
  | unsupportedFormat (format : String)
  | noWorkers
  | blankProfile
  | malformedLevel (level : String) (failure : LogFilter.Failure)
  | malformedVariable (name : String) (problem : VariableProblem)
  | malformedEnvironmentFile
deriving DecidableEq

namespace SettingsFailure

def invalid (field reason : String) : String :=
  "invalid settings value for " ++ field ++ ": " ++ reason

def message : SettingsFailure → String
  | fileNotFound path => "settings file not found: " ++ path
  | unreadable path => "failed to read settings file: " ++ path
  | malformedToml => "failed to parse TOML settings"
  | malformedJson => "failed to parse JSON settings"
  | unsupportedFormat format => "unsupported settings format: " ++ format
  | noWorkers => invalid "validation.parallelism" "must be at least 1"
  | blankProfile => invalid "validation.profile" "must not be blank"
  | malformedLevel level failure => invalid "logging.level" (failure.message level)
  | malformedVariable name problem =>
    "failed to parse environment variable " ++ name ++ ": " ++ problem.reason
  | malformedEnvironmentFile => "failed to load .env file"

end SettingsFailure

namespace Settings

def default : Settings := ⟨.default, .default⟩

/-- Settings up to this number of workers can be written. -/
def parallelismLimit : Nat := 0x10000000000000000

def failure? (s : Settings) : Option SettingsFailure :=
  if s.validation.parallelism = 0 then some .noWorkers
  else if s.validation.profile.any fun p => p.toList.all Text.isBlank then some .blankProfile
  else if s.logging.enabled then
    (LogFilter.failure? s.logging.level).map (.malformedLevel s.logging.level)
  else none

def logConfig (s : Settings) : LogConfig :=
  let preset :=
    match s.logging.format with
    | .json => LogConfig.production
    | .pretty => LogConfig.development
  { preset with level := s.logging.level, enabled := s.logging.enabled }

end Settings

end Conform
