import Conform.KeyPattern

namespace Conform.Nesting

def join (path name : String) : String := if path = "" then name else path ++ "." ++ name

mutual

/-- The values of a document with their dotted keys, in order. Empty maps hold none. -/
def leaves (path : String) : Value → List (String × Value)
  | .map entries => leavesOf path entries
  | value => [(path, value)]

def leavesOf (path : String) : List (String × Value) → List (String × Value)
  | [] => []
  | (name, value) :: rest => leaves (join path name) value ++ leavesOf path rest

end

/-- The configuration of a document; of two values with one key the later one counts. -/
def flatten (entries : List (String × Value)) : Config := .ofList (leavesOf "" entries)

def below (name : String) (entries : List (String × Value)) : List (String × Value) :=
  match entries.lookup name with
  | some (.map inner) => inner
  | _ => []

/-- Writes a value into nested maps. What is no map gives way to a map on the path; a map at its end
stays. -/
def write (entries : List (String × Value)) : (path : List String) → Value → List (String × Value)
  | [], _ => entries
  | [name], value =>
    match entries.lookup name with
    | some (.map _) => entries
    | _ => Entries.put entries name value
  | name :: path, value => Entries.put entries name (.map (write (below name entries) path value))

def nest (c : Config) : List (String × Value) :=
  c.entries.foldl (fun entries (key, value) => write entries (segments key) value) []

end Conform.Nesting
