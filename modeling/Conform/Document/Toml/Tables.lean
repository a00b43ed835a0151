import Conform.Document.Toml.Basic

namespace Conform.Toml

inductive Origin where
  /-- By a header of its own, or as a value. -/
  | defined
  /-- By the header of a table in it. -/
  | implied
  /-- By a dotted key. -/
  | dotted
deriving DecidableEq

inductive Node where
  | value (v : Toml)
  | table (origin : Origin) (entries : List (String × Node))
  /-- Tables by headers in double brackets; each list has its entries. -/
  | tables (elements : List (List (String × Node)))

namespace Node

/-- Changes the table at a path; tables on the way that are missing are made. A header leads through
every table, and into the last of several; a dotted key leads through tables without header of
their own. -/
def modifyAt (byDottedKey : Bool) (change : Origin → List (String × Node) →
    Option (List (String × Node))) : (path : List String) → Origin → List (String × Node) →
    Option (List (String × Node))
  | [], origin, entries => change origin entries
  | key :: path, _, entries =>
    match entries.lookup key with
    | none =>
      let origin := if byDottedKey then Origin.dotted else .implied
      (modifyAt byDottedKey change path origin []).map fun inner =>
        Entries.put entries key (.table origin inner)
    | some (.value _) => none
    | some (.table origin inner) =>
      if byDottedKey ∧ origin = .defined then none
      else
        (modifyAt byDottedKey change path origin inner).map fun inner =>
          Entries.put entries key (.table origin inner)
    | some (.tables elements) =>
      match elements.getLast? with
      | none => none
      | some last =>
        (modifyAt byDottedKey change path .defined last).map fun last =>
          Entries.put entries key (.tables (elements.dropLast ++ [last]))

def add (key : String) (node : Node) (entries : List (String × Node)) :
    Option (List (String × Node)) :=
  match entries.lookup key with
  | some _ => none
  | none => some (entries ++ [(key, node)])

/-- Writes a value under a dotted key. The table it goes into was made by dotted keys itself. -/
def assign (path : List String) (key : String) (value : Toml) (entries : List (String × Node)) :
    Option (List (String × Node)) :=
  modifyAt true
    (fun origin inner =>
      if path.isEmpty ∨ origin = .dotted then add key (.value value) inner else none)
    path .defined entries

mutual

def toToml : Node → Toml
  | value v => v
  | table _ entries => .table (entriesToToml entries)
  | tables elements => .array (elementsToToml elements)

def entriesToToml : List (String × Node) → List (String × Toml)
  | [] => []
  | (key, node) :: rest => (key, node.toToml) :: entriesToToml rest

def elementsToToml : List (List (String × Node)) → List Toml
  | [] => []
  | entries :: rest => .table (entriesToToml entries) :: elementsToToml rest

end

end Node

structure DottedKey where
  path : List String
  key : String
deriving DecidableEq

inductive Statement where
  | header (name : DottedKey)
  | elementHeader (name : DottedKey)
  | assignment (name : DottedKey) (value : Toml)

inductive Target where
  | root
  | table (name : DottedKey)
  | element (name : DottedKey)

/-- A document as far as it was read: the tables that are finished, and the one that is not. -/
structure Assembly where
  root : List (String × Node)
  target : Target
  current : List (String × Node)

namespace Assembly

def start : Assembly := ⟨[], .root, []⟩

/-- The root once the current table is put in its place: a table at the end of its parent, an
element behind those before it. -/
def finish (a : Assembly) : Option (List (String × Node)) :=
  match a.target with
  | .root => some a.current
  | .table name =>
    Node.modifyAt false (fun _ entries => Node.add name.key (.table .defined a.current) entries)
      name.path .defined a.root
  | .element name =>
    Node.modifyAt false
      (fun _ entries =>
        match entries.lookup name.key with
        | some (.tables elements) =>
          some (Entries.put entries name.key (.tables (elements ++ [a.current])))
        | _ => none)
      name.path .defined a.root

/-- Takes a table out that is only implied so far, to be continued. -/
def takeImplied (key : String) (entries : List (String × Node)) :
    Option (List (String × Node) × List (String × Node)) :=
  match entries.lookup key with
  | none => some ([], entries)
  | some (.table .implied inner) => some (inner, entries.filter (·.1 ≠ key))
  | some _ => none

def entriesAt (path : List String) (root : List (String × Node)) : List (String × Node) :=
  match path with
  | [] => root
  | key :: path =>
    match root.lookup key with
    | some (.table _ inner) => entriesAt path inner
    | some (.tables elements) => entriesAt path (elements.getLast?.getD [])
    | _ => []

def startTable (name : DottedKey) (root : List (String × Node)) : Option Assembly := do
  let (current, _) ← takeImplied name.key (entriesAt name.path root)
  let root ← Node.modifyAt false (fun _ entries => (takeImplied name.key entries).map (·.2))
    name.path .defined root
  return ⟨root, .table name, current⟩

def startElement (name : DottedKey) (root : List (String × Node)) : Option Assembly := do
  let root ← Node.modifyAt false
    (fun _ entries =>
      match entries.lookup name.key with
      | none => some (entries ++ [(name.key, .tables [])])
      | some (.tables _) => some entries
      | some _ => none)
    name.path .defined root
  return ⟨root, .element name, []⟩

def step (a : Assembly) : Statement → Option Assembly
  | .header name => a.finish.bind (startTable name)
  | .elementHeader name => a.finish.bind (startElement name)
  | .assignment name value =>
    (Node.assign name.path name.key value a.current).map fun current =>
      { a with current := current }

def run (a : Assembly) : List Statement → Option (List (String × Node))
  | [] => a.finish
  | s :: rest =>
    match a.step s with
    | some a => run a rest
    | none => none

end Assembly

def assemble? (statements : List Statement) : Option (List (String × Toml)) :=
  (Assembly.start.run statements).map Node.entriesToToml

def inlineTable? (entries : List (DottedKey × Toml)) : Option Toml :=
  let assign (table : List (String × Node)) (entry : DottedKey × Toml) :
      Option (List (String × Node)) :=
    Node.assign entry.1.path entry.1.key entry.2 table
  (entries.foldlM assign []).map fun table => .table (Node.entriesToToml table)

end Conform.Toml
