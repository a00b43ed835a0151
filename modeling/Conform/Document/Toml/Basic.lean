import Conform.Document.Nesting
import Conform.Document.Toml.Datetime

namespace Conform

inductive Toml where
  | string (s : String)
  | integer (n : Int64)
  | float (x : Binary64)
  | flag (b : Bool)
  | datetime (d : Toml.Datetime)
  | array (items : List Toml)
  /-- Entries have distinct keys. -/
  | table (entries : List (String × Toml))

instance : Inhabited Toml := ⟨.flag false⟩

namespace Toml

mutual

def toValue : Toml → Value
  | string s => .text s
  | integer n => .integer n
  | float x => .double x
  | flag b => .flag b
  | datetime d => .text d.text
  | array items => .list (toValues items)
  | table entries => .map (toEntries entries)

def toValues : List Toml → List Value
  | [] => []
  | t :: rest => t.toValue :: toValues rest

def toEntries : List (String × Toml) → List (String × Value)
  | [] => []
  | (key, t) :: rest => (key, t.toValue) :: toEntries rest

end

mutual

/-- The document of a value. Null becomes empty text, and a decimal the float nearest to it. -/
def ofValue : Value → Toml
  | .null => string ""
  | .flag b => flag b
  | .text s => string s
  | .integer n => integer n
  | .double x => float x
  | .decimal d =>
    match Binary64.ofChars? d.chars with
    | some x => float x
    | none => string d.text
  | .list items => array (ofValues items)
  | .map entries => table (ofEntries entries)

def ofValues : List Value → List Toml
  | [] => []
  | v :: rest => ofValue v :: ofValues rest

def ofEntries : List (String × Value) → List (String × Toml)
  | [] => []
  | (key, v) :: rest => (key, ofValue v) :: ofEntries rest

end

def toConfig (entries : List (String × Toml)) : Config := Nesting.flatten (toEntries entries)

def ofConfig (c : Config) : List (String × Toml) := ofEntries (Nesting.nest c)

end Toml

end Conform
