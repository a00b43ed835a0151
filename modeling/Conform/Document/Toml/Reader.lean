import Conform.Document.Toml.Quoted
import Conform.Document.Toml.Scalar
import Conform.Document.Toml.Tables

namespace Conform.Toml

namespace Reader

open Quoted

def skipBlanks (text : List Char) : List Char := text.dropWhile isBlank

def afterComment? (text : List Char) : Option (List Char) :=
  match text with
  | '#' :: rest => afterLineEnd? (rest.dropWhile isPlain)
  | _ => none

def skipGaps : (fuel : Nat) → List Char → List Char
  | 0, text => text
  | fuel + 1, text =>
    let text := skipBlanks text
    match (afterLineEnd? text).or (afterComment? text) with
    | some rest => skipGaps fuel rest
    | none => text

def gaps (text : List Char) : List Char := skipGaps (text.length + 1) text

def isBareKeyChar (c : Char) : Bool := c.isAlphanum || c = '_' || c = '-'

def keyPart (text : List Char) : Option (List Char × List Char) :=
  match text with
  | [] => none
  | c :: rest =>
    if c = '"' ∨ c = '\'' then readKey c rest
    else
      let part := text.takeWhile isBareKeyChar
      if part.isEmpty then none else some (part, text.dropWhile isBareKeyChar)

def keyParts : (fuel : Nat) → List Char → Option (List (List Char) × List Char)
  | 0, _ => none
  | fuel + 1, text => do
    let (part, text) ← keyPart (skipBlanks text)
    match skipBlanks text with
    | '.' :: rest =>
      let (parts, rest) ← keyParts fuel rest
      return (part :: parts, rest)
    | text => return ([part], text)

/-- Keys with more parts are refused, and so are arrays and tables that nest as deep. -/
def nestingLimit : Nat := 79

def key (text : List Char) : Option (DottedKey × List Char) := do
  let (parts, rest) ← keyParts (text.length + 1) text
  let parts := parts.map String.ofList
  if parts.length ≤ nestingLimit then
    return (⟨parts.dropLast, parts.getLast?.getD ""⟩, rest)
  else none

def arrayItems (value : List Char → Option (Toml × List Char)) :
    (fuel : Nat) → List Char → Option (List Toml × List Char)
  | 0, _ => none
  | fuel + 1, text =>
    match gaps text with
    | ']' :: rest => some ([], rest)
    | text => do
      let (item, text) ← value text
      match gaps text with
      | ']' :: rest => return ([item], rest)
      | ',' :: rest =>
        let (items, rest) ← arrayItems value fuel rest
        return (item :: items, rest)
      | _ => none

def pair (value : List Char → Option (Toml × List Char)) (text : List Char) :
    Option ((DottedKey × Toml) × List Char) := do
  let (name, text) ← key text
  match text with
  | '=' :: rest =>
    let (v, rest) ← value (skipBlanks rest)
    return ((name, v), skipBlanks rest)
  | _ => none

def inlineEntries (value : List Char → Option (Toml × List Char)) :
    (fuel : Nat) → List Char → Option (List (DottedKey × Toml) × List Char)
  | 0, _ => none
  | fuel + 1, text => do
    let (entry, text) ← pair value text
    match text with
    | '\x7d' :: rest => return ([entry], rest)
    | ',' :: rest =>
      let (entries, rest) ← inlineEntries value fuel rest
      return (entry :: entries, rest)
    | _ => none

def inlineTable (value : List Char → Option (Toml × List Char)) (text : List Char) :
    Option (Toml × List Char) := do
  match skipBlanks text with
  | '\x7d' :: rest => return (.table [], rest)
  | text =>
    let (entries, rest) ← inlineEntries value (text.length + 1) text
    return (← inlineTable? entries, rest)

/-- Reads a value in which arrays and inline tables nest `depth` times at most. -/
def value : (depth : Nat) → List Char → Option (Toml × List Char)
  | _, '"' :: rest => (read '"' rest).map fun (s, rest) => (.string (String.ofList s), rest)
  | _, '\'' :: rest => (read '\'' rest).map fun (s, rest) => (.string (String.ofList s), rest)
  | depth + 1, '[' :: rest =>
    (arrayItems (value depth) (rest.length + 1) rest).map fun (items, rest) => (.array items, rest)
  | depth + 1, '\x7b' :: rest => inlineTable (value depth) rest
  | _, text => Scalar.read text

def lineEnd (text : List Char) : Option (List Char) :=
  let text := skipBlanks text
  let text := if text.head? = some '#' then text.dropWhile isPlain else text
  match text with
  | [] => some []
  | text => afterLineEnd? text

def headerName (closing : List Char) (text : List Char) : Option (DottedKey × List Char) := do
  let (name, text) ← key text
  return (name, ← lineEnd (← Text.stripPrefix? closing text))

def statement (text : List Char) : Option (Statement × List Char) :=
  match text with
  | '[' :: '[' :: rest =>
    (headerName [']', ']'] rest).map fun (name, rest) => (.elementHeader name, rest)
  | '[' :: rest => (headerName [']'] rest).map fun (name, rest) => (.header name, rest)
  | text => do
    let ((name, v), rest) ← pair (value nestingLimit) text
    return (.assignment name v, ← lineEnd rest)

def statements : (fuel : Nat) → List Char → Option (List Statement)
  | 0, _ => none
  | fuel + 1, text =>
    match skipBlanks text with
    | [] => some []
    | text =>
      if text.head? = some '#' ∨ (afterLineEnd? text).isSome then
        (lineEnd text).bind (statements fuel)
      else do
        let (s, rest) ← statement text
        return s :: (← statements fuel rest)

end Reader

def dropMark (text : List Char) : List Char :=
  match text with
  | '\ufeff' :: rest => rest
  | _ => text

def parse? (text : String) : Option (List (String × Toml)) := do
  let text := dropMark text.toList
  assemble? (← Reader.statements (text.length + 1) text)

end Conform.Toml
