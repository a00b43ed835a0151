import Conform.Settings.Environment
import Conform.Text.Blank
import Conform.Unicode.BinaryProperty

namespace Conform.EnvironmentFile

/-- What a part of a line leaves open. -/
inductive Quoting where
  | plain
  /-- After a blank, at which a comment may begin. -/
  | blank
  | escaped
  | single (escaped : Bool)
  | double (escaped : Bool)
deriving DecidableEq

def Quoting.outside (c : Char) (otherwise : Quoting) : Quoting :=
  if c = '\\' then .escaped
  else if c = '"' then .double false
  else if c = '\'' then .single false
  else otherwise

def Quoting.next (c : Char) : Quoting → Quoting
  | .plain => Quoting.outside c (if Text.isBlank c && c ≠ '\n' && c ≠ '\r' then .blank else .plain)
  | .blank => Quoting.outside c .plain
  | .escaped => .plain
  | .single true => .single false
  | .single false => if c = '\'' then .plain else .single (c = '\\')
  | .double true => .double false
  | .double false => if c = '"' then .plain else .double (c = '\\')

/-- A line up to the comment in it, and what it leaves open if there is none. -/
def scan (q : Quoting) : List Char → List Char × Option Quoting
  | [] => ([], some q)
  | c :: rest =>
    if q = .blank ∧ c = '#' then ([], none)
    else
      let (kept, q) := scan (q.next c) rest
      (c :: kept, q)

def withFeeds : List (List Char) → List (List Char)
  | [] => []
  | [last] => if last.isEmpty then [] else [last]
  | piece :: rest => (piece ++ ['\n']) :: withFeeds rest

/-- Lines without comments, joined where one leaves something open, given the start of the first
one. -/
def join (start : List Char) (q : Quoting) : List (List Char) → Option (List (List Char))
  | [] => if q = .plain then some [] else none
  | line :: rest =>
    if (Text.trimStart (start ++ line)).head? = some '#' then join [] .plain rest
    else
      match scan q line with
      | (kept, none) | (kept, some .plain) =>
        (join [] .plain rest).map fun lines => (start ++ kept) :: lines
      | (kept, some q) => join (start ++ kept) q rest

inductive Place where
  | plain (quoted : Bool)
  | escaped (quoted : Bool)
  /-- Within single quotes, where all but the end of them stands for itself. -/
  | single
  /-- Within the name of a variable that stands for its value, or within one in braces. -/
  | reference (quoted : Bool) (name : List Char)
  | braced (quoted : Bool) (name : List Char)
  /-- After a blank, behind which only a comment may stand. -/
  | blank

def unescape? (c : Char) : Option Char :=
  if c = 'n' then some '\n' else if c ∈ ['\\', '\'', '"', '$', ' '] then some c else none

def value? (valueOf : List Char → List Char) : Place → List Char → Option (List Char)
  | .plain quoted, [] => if quoted then none else some []
  | .escaped quoted, [] => if quoted then none else some []
  | .single, [] => none
  | .reference quoted name, [] => if quoted then none else some (valueOf name)
  | .braced .., [] => none
  | .blank, [] => some []
  | .plain true, c :: rest =>
    if c = '$' then value? valueOf (.reference true []) rest
    else if c = '"' then value? valueOf (.plain false) rest
    else if c = '\\' then value? valueOf (.escaped true) rest
    else (value? valueOf (.plain true) rest).map (c :: ·)
  | .plain false, c :: rest =>
    if c = '$' then value? valueOf (.reference false []) rest
    else if c = '\'' then value? valueOf .single rest
    else if c = '"' then value? valueOf (.plain true) rest
    else if c = '\\' then value? valueOf (.escaped false) rest
    else if c = ' ' ∨ c = '\t' then value? valueOf .blank rest
    else (value? valueOf (.plain false) rest).map (c :: ·)
  | .escaped quoted, c :: rest => do
    return (← unescape? c) :: (← value? valueOf (.plain quoted) rest)
  | .single, c :: rest =>
    if c = '\'' then value? valueOf (.plain false) rest
    else (value? valueOf .single rest).map (c :: ·)
  | .reference quoted name, c :: rest =>
    if Unicode.isAlphanumeric c then value? valueOf (.reference quoted (name ++ [c])) rest
    else if c = '\x7b' ∧ name = [] then value? valueOf (.braced quoted []) rest
    else if c = '$' then (value? valueOf (.reference quoted []) rest).map (valueOf name ++ ·)
    else (value? valueOf (.plain quoted) rest).map (valueOf name ++ c :: ·)
  | .braced quoted name, c :: rest =>
    if c = '\x7d' then (value? valueOf (.plain quoted) rest).map (valueOf name ++ ·)
    else value? valueOf (.braced quoted (name ++ [c])) rest
  | .blank, c :: rest =>
    if c = ' ' ∨ c = '\t' then value? valueOf .blank rest
    else if c = '#' then some []
    else none

def isNameStart (c : Char) : Bool := c.isAlpha || c = '_'

def isNamePart (c : Char) : Bool := c.isAlphanum || c = '_' || c = '.'

def name? : List Char → Option (List Char × List Char)
  | [] => none
  | c :: rest =>
    if isNameStart c then
      some (c :: rest.takeWhile isNamePart, Text.trimStart (rest.dropWhile isNamePart))
    else none

def assignedName? (line : List Char) : Option (List Char × List Char) := do
  let (name, rest) ← name? line
  let (name, rest) ←
    if name = "export".toList ∧ rest.head? ≠ some '=' then name? rest else some (name, rest)
  match rest with
  | '=' :: rest => some (name, Text.trimStart rest)
  | _ => none

/-- The environment with the variable that a line assigns, if it assigns one. -/
def readLine (env : Environment) (line : List Char) : Option Environment :=
  let line := Text.trim line
  if line.isEmpty ∨ line.head? = some '#' then some env
  else do
    let (name, rest) ← assignedName? line
    let valueOf (name : List Char) : List Char := ((env.get? (String.ofList name)).getD "").toList
    let value ← if rest.head? = some '#' then some [] else value? valueOf (.plain false) rest
    let name := String.ofList name
    return if env.contains name then env else env.insert name (String.ofList value)

def read (env : Environment) (text : String) : Option Environment := do
  let text :=
    match text.toList with
    | '\uFEFF' :: rest => rest
    | cs => cs
  (← join [] .plain (withFeeds (Text.pieces '\n' text))).foldlM readLine env

end Conform.EnvironmentFile
