import Conform.Settings.Basic
import Conform.Store
import Conform.Text.Sorted
import Conform.Text.Split
import Conform.Unicode.CaseMapping

namespace Conform

abbrev Environment := Store String

namespace Settings

inductive Field where
  | strict
  | parallelism
  | profile
  | enabled
  | level
  | format
deriving DecidableEq

namespace Field

def all : List Field := [strict, parallelism, profile, enabled, level, format]

def parts : Field → List String
  | strict => ["VALIDATION", "STRICT"]
  | parallelism => ["VALIDATION", "PARALLELISM"]
  | profile => ["VALIDATION", "PROFILE"]
  | enabled => ["LOGGING", "ENABLED"]
  | level => ["LOGGING", "LEVEL"]
  | format => ["LOGGING", "FORMAT"]

/-- The setting of a variable by what follows the name of the program; two underscores part it. -/
def ofName? (name : String) : Option Field :=
  let parts := (Text.piecesAtPairs '_' name.toList).map String.ofList
  all.find? (·.parts = parts)

end Field

def flagOfText? (text : String) : Option Bool :=
  let word := Unicode.toLower text
  if word ∈ ["true", "1", "yes", "on"] then some true
  else if word ∈ ["false", "0", "no", "off"] then some false
  else none

def countOfText? (text : String) : Option Nat :=
  let digits :=
    match text.toList with
    | '+' :: rest => rest
    | cs => cs
  let n := Nat.ofDigitChars 10 digits 0
  if !digits.isEmpty ∧ digits.all Char.isDigit ∧ n < parallelismLimit then some n else none

def assign (s : Settings) (text : String) : Field → Except VariableProblem Settings
  | .strict =>
    match flagOfText? text with
    | some b => .ok { s with validation.strict := b }
    | none => .error .notFlag
  | .parallelism =>
    match countOfText? text with
    | some n => .ok { s with validation.parallelism := n }
    | none => .error .notCount
  | .profile => .ok { s with validation.profile := if text.isEmpty then none else some text }
  | .enabled =>
    match flagOfText? text with
    | some b => .ok { s with logging.enabled := b }
    | none => .error .notFlag
  | .level => .ok { s with logging.level := text }
  | .format =>
    match LogFormat.ofName? (Unicode.toLower text) with
    | some format => .ok { s with logging.format := format }
    | none => .error .notFormat

def assignNamed (s : Settings) (name text : String) : Except VariableProblem Settings :=
  match Field.ofName? name with
  | some field => s.assign text field
  | none => .error .unknownSetting

/-- The settings with one of them taken from the variable of that name. Variables of other programs
leave them as they are. -/
def override (program : String) (env : Environment) (s : Settings) (name : String) :
    Except SettingsFailure Settings :=
  match (Text.after? program name).bind (Text.after? "__") with
  | none => .ok s
  | some setting =>
    match s.assignNamed setting ((env.get? name).getD "") with
    | .ok s => .ok s
    | .error problem => .error (.malformedVariable name problem)

/-- The settings with those that have a variable taken from it. Of the variables that begin with the
name of the program, the first in order that is unknown or malformed is the failure. -/
def overrideAll (s : Settings) (program : String) (env : Environment) :
    Except SettingsFailure Settings :=
  (Text.sorted (env.keys.filter (Text.startsWith program))).foldlM (override program env) s

end Settings

end Conform
