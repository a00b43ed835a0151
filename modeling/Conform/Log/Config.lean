import Conform.Log.Filter

namespace Conform

structure LogConfig where
  enabled : Bool
  level : String
  jsonFormat : Bool
  spanEvents : Bool
  fileLineInfo : Bool
  threadIds : Bool
  includeTarget : Bool
deriving DecidableEq

namespace LogConfig

def development : LogConfig where
  enabled := true
  level := "debug"
  jsonFormat := false
  spanEvents := true
  fileLineInfo := true
  threadIds := true
  includeTarget := true

def production : LogConfig where
  enabled := true
  level := "info"
  jsonFormat := true
  spanEvents := false
  fileLineInfo := false
  threadIds := false
  includeTarget := true

def default : LogConfig := production

inductive SetupFailure where
  | filter (filter : String) (failure : LogFilter.Failure)
  /-- Logging is set up already. -/
  | occupied
deriving DecidableEq

def SetupFailure.message : SetupFailure → String
  | filter text failure => failure.message text
  | occupied =>
    "Failed to initialize logging: a global default trace dispatcher has already been set"

/-- What comes of setting logging up in a process in which it is set up already: nothing, if logging
is not enabled. -/
def setupAgain (c : LogConfig) : Except SetupFailure Unit :=
  if !c.enabled then .ok ()
  else
    match LogFilter.failure? c.level with
    | some failure => .error (.filter c.level failure)
    | none => .error .occupied

end LogConfig

end Conform
