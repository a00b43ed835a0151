import Conform.Load.Factory
import Conform.Settings.Document
import Conform.Settings.EnvironmentFile

namespace Conform

/-- Settings as far as they are loaded, and what they will be loaded from yet. -/
structure SettingsLoader where
  settings : Settings
  /-- The name of the program whose variables override settings. -/
  program : Option String
  environment : Environment

namespace SettingsLoader

def ofEnvironment (environment : Environment) : SettingsLoader := ⟨.default, none, environment⟩

def withDocument (l : SettingsLoader) (content format : String) :
    Except SettingsFailure SettingsLoader := do
  return { l with settings := ← Settings.parse content format }

/-- Takes all settings from a file, in the format that the extension of its path names. -/
def withFile (l : SettingsLoader) (files : FileTree) (path : String) :
    Except SettingsFailure SettingsLoader :=
  if !files.contains path then .error (.fileNotFound path)
  else
    match files.readText? path with
    | some content => l.withDocument content ((Factory.extension? path).getD "")
    | none => .error (.unreadable path)

def withOptionalFile (l : SettingsLoader) (files : FileTree) (path : String) :
    Except SettingsFailure SettingsLoader :=
  if files.contains path then l.withFile files path else .ok l

def withProgram (l : SettingsLoader) (name : String) : SettingsLoader :=
  { l with program := some (Unicode.toUpper name) }

def withEnvironmentFile (l : SettingsLoader) (files : FileTree) :
    Except SettingsFailure SettingsLoader :=
  if !files.isFile ".env" then .ok l
  else
    match (files.readText? ".env").bind (EnvironmentFile.read l.environment) with
    | some environment => .ok { l with environment := environment }
    | none => .error .malformedEnvironmentFile

/-- The settings, overridden by variables and with no value out of its bounds. -/
def load (l : SettingsLoader) : Except SettingsFailure Settings := do
  let settings ←
    match l.program with
    | some program => l.settings.overrideAll program l.environment
    | none => .ok l.settings
  match settings.failure? with
  | some failure => throw failure
  | none => return settings

def loadUnchecked (l : SettingsLoader) : Settings := l.settings

end SettingsLoader

end Conform
