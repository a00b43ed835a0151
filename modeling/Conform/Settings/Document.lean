import Conform.Document.Json.Reader
import Conform.Document.Toml.Reader
import Conform.Settings.Basic
import Conform.Unicode.CaseMapping

namespace Conform.Settings

/-- What a document holds in a place, as far as settings are concerned. -/
inductive Shape where
  | null
  | flag (b : Bool)
  | text (s : String)
  /-- A number that counts something. -/
  | count (n : Nat)
  | list (items : List Shape)
  | record (members : List (String × Shape))
  | other

namespace Shape

def ofNumber (digits : List Char) : Shape :=
  let n := Nat.ofDigitChars 10 digits 0
  if digits.all NumberLiteral.isDigit ∧ n < parallelismLimit then count n else other

mutual

def ofJson : Json → Shape
  | .null => null
  | .flag b => flag b
  | .number digits => ofNumber digits.toList
  | .string s => text s
  | .array items => list (ofJsonItems items)
  | .object members => record (ofJsonMembers members)

def ofJsonItems : List Json → List Shape
  | [] => []
  | j :: rest => ofJson j :: ofJsonItems rest

def ofJsonMembers : List (String × Json) → List (String × Shape)
  | [] => []
  | (name, j) :: rest => (name, ofJson j) :: ofJsonMembers rest

end

mutual

def ofToml : Toml → Shape
  | .string s => text s
  | .integer n => if 0 ≤ n.toInt then count n.toInt.toNat else other
  | .float _ => other
  | .flag b => flag b
  | .datetime _ => other
  | .array items => list (ofTomlItems items)
  | .table entries => record (ofTomlEntries entries)

def ofTomlItems : List Toml → List Shape
  | [] => []
  | t :: rest => ofToml t :: ofTomlItems rest

def ofTomlEntries : List (String × Toml) → List (String × Shape)
  | [] => []
  | (key, t) :: rest => (key, ofToml t) :: ofTomlEntries rest

end

end Shape

/-- Rules in which the document formats differ. -/
structure Dialect where
  /-- Whether a list may have more items than the record has members. -/
  allowsMore : Bool
  /-- What stands for nothing at all. -/
  isUnit : Shape → Bool

namespace Dialect

def json : Dialect where
  allowsMore := false
  isUnit shape :=
    match shape with
    | .null => true
    | _ => false

def toml : Dialect where
  allowsMore := true
  isUnit shape :=
    match shape with
    | .list items => items.isEmpty
    | .record members => members.isEmpty
    | _ => false

/-- The members of a record in the order of their names, each if it is there. -/
def members (d : Dialect) (names : List String) : Shape → Option (List (Option Shape))
  | .record members =>
    if members.all fun (name, _) => name ∈ names then some (names.map (List.lookup · members))
    else none
  | .list items =>
    if items.length ≤ names.length ∨ d.allowsMore then
      some ((List.range names.length).map fun i => items[i]?)
    else none
  | _ => none

def orDefault {α : Type} (default : α) (read : Shape → Option α) : Option Shape → Option α
  | none => some default
  | some shape => read shape

def flag? : Shape → Option Bool
  | .flag b => some b
  | _ => none

def text? : Shape → Option String
  | .text s => some s
  | _ => none

def count? : Shape → Option Nat
  | .count n => some n
  | _ => none

def optionalText? : Shape → Option (Option String)
  | .text s => some (some s)
  | .null => some none
  | _ => none

def format? (d : Dialect) : Shape → Option LogFormat
  | .text name => LogFormat.ofName? name
  | .record [(name, shape)] => if d.isUnit shape then LogFormat.ofName? name else none
  | _ => none

def validation? (d : Dialect) (shape : Shape) : Option ValidationSettings := do
  let default := ValidationSettings.default
  match ← d.members ["strict", "parallelism", "profile"] shape with
  | [strict, parallelism, profile] =>
    return {
      strict := ← orDefault default.strict flag? strict
      parallelism := ← orDefault default.parallelism count? parallelism
      profile := ← orDefault default.profile optionalText? profile }
  | _ => none

def logging? (d : Dialect) (shape : Shape) : Option LoggingSettings := do
  let default := LoggingSettings.default
  match ← d.members ["enabled", "level", "format"] shape with
  | [enabled, level, format] =>
    return {
      enabled := ← orDefault default.enabled flag? enabled
      level := ← orDefault default.level text? level
      format := ← orDefault default.format d.format? format }
  | _ => none

def settings? (d : Dialect) (shape : Shape) : Option Settings := do
  match ← d.members ["validation", "logging"] shape with
  | [validation, logging] =>
    return {
      validation := ← orDefault Settings.default.validation d.validation? validation
      logging := ← orDefault Settings.default.logging d.logging? logging }
  | _ => none

end Dialect

def parse (content format : String) : Except SettingsFailure Settings :=
  let format := Unicode.toLower format
  if format = "toml" then
    match (Toml.parse? content).bind fun d => Dialect.toml.settings? (.ofToml (.table d)) with
    | some settings => .ok settings
    | none => .error .malformedToml
  else if format = "json" then
    match (Json.parse? content .refused).bind fun d => Dialect.json.settings? (.ofJson d) with
    | some settings => .ok settings
    | none => .error .malformedJson
  else .error (.unsupportedFormat format)

end Conform.Settings
