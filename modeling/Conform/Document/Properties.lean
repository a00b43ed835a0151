import Conform.Config
import Conform.Load.Failure
import Conform.Number.Radix
import Conform.Text.Lines
import Conform.Value.Text

/-!
Properties documents: one entry to a line, the key before a blank, an equals sign or a colon. A
backslash at the end of a line continues it, and elsewhere takes a character out of its role.
-/

namespace Conform.Properties

def isBlank (c : Char) : Bool := c = ' ' || c = '\t' || c = '\x0c'

def dropBlanks (text : List Char) : List Char := text.dropWhile isBlank

def continues (line : List Char) : Bool :=
  (line.reverse.takeWhile (· = '\\')).length % 2 == 1

/-- Whether a line without the blanks before it holds no entry: it is empty or a comment. -/
def isIgnored (line : List Char) : Bool :=
  match line with
  | [] => true
  | c :: _ => c = '#' || c = '!'

/-- An entry as written, on one line whatever number of lines it takes, with the number of the line
on which it begins. -/
structure LogicalLine where
  number : Nat
  text : List Char
deriving DecidableEq

/-- The logical lines of a document, given the number of its first line and the logical line that it
continues, if it does. -/
def logicalLines : (number : Nat) → (opened : Option LogicalLine) → List (List Char) →
    List LogicalLine
  | _, none, [] => []
  | _, some line, [] => [line]
  | n, none, raw :: rest =>
    let text := dropBlanks raw
    if isIgnored text then logicalLines (n + 1) none rest
    else if continues text then logicalLines (n + 1) (some ⟨n, text.dropLast⟩) rest
    else ⟨n, text⟩ :: logicalLines (n + 1) none rest
  | n, some line, raw :: rest =>
    let text := line.text ++ dropBlanks raw
    if continues text then logicalLines (n + 1) (some ⟨line.number, text.dropLast⟩) rest
    else ⟨line.number, text⟩ :: logicalLines (n + 1) none rest

def isSeparator (c : Char) : Bool := c = '=' || c = ':'

/-- Splits a line before the first blank or separator without a backslash of its own. -/
def splitKey : List Char → List Char × List Char
  | [] => ([], [])
  | [c] => if isSeparator c || isBlank c then ([], [c]) else ([c], [])
  | c :: d :: rest =>
    if c = '\\' then
      let (key, rest) := splitKey rest
      (c :: d :: key, rest)
    else if isSeparator c || isBlank c then ([], c :: d :: rest)
    else
      let (key, rest) := splitKey (d :: rest)
      (c :: key, rest)

def dropSeparator : List Char → List Char
  | [] => []
  | c :: rest => if isSeparator c then rest else c :: rest

def splitEntry (line : List Char) : List Char × List Char :=
  let (key, rest) := splitKey line
  (key, dropBlanks (dropSeparator (dropBlanks rest)))

def escaped : Char → Char
  | 't' => '\t'
  | 'n' => '\n'
  | 'r' => '\r'
  | 'f' => '\x0c'
  | c => c

/-- The character with the code that four digits write; a plus sign may take the place of the first
digit. -/
def charOfDigits? (digits : List Char) : Option Char :=
  let digits :=
    match digits with
    | '+' :: rest => rest
    | _ => digits
  if digits.all (Radix.isDigit 16) then Radix.charOfCode? (Radix.value 16 digits) else none

/-- Reads escapes; fails with the characters in place of the four digits of a code. -/
def unescape : List Char → Except (List Char) (List Char)
  | [] => .ok []
  | ['\\'] => .ok []
  | '\\' :: 'u' :: a :: b :: c :: d :: rest =>
    match charOfDigits? [a, b, c, d] with
    | some char => (unescape rest).map (char :: ·)
    | none => .error [a, b, c, d]
  | '\\' :: c :: rest =>
    if c = 'u' then .error rest else (unescape rest).map (escaped c :: ·)
  | c :: rest => (unescape rest).map (c :: ·)

def unescapeText (line : Nat) (text : List Char) : Except LoadFailure String :=
  match unescape text with
  | .ok text => .ok (String.ofList text)
  | .error digits => .error (.malformedEscape line (String.ofList digits))

def readEntry (line : LogicalLine) : Except LoadFailure (String × String) := do
  let (key, value) := splitEntry line.text
  return (← unescapeText line.number key, ← unescapeText line.number value)

def readInto (entries : Store String) : List LogicalLine → Except LoadFailure (Store String)
  | [] => .ok entries
  | line :: rest =>
    match readEntry line with
    | .error failure => .error failure
    | .ok (key, value) => readInto (entries.insert key value) rest

def parse (text : String) : Except LoadFailure (Store String) :=
  readInto ∅ (logicalLines 1 none (Text.lines text.toList))

def escape (c : Char) : List Char :=
  match c with
  | '\\' => ['\\', '\\']
  | '\t' => ['\\', 't']
  | '\n' => ['\\', 'n']
  | '\r' => ['\\', 'r']
  | '\x0c' => ['\\', 'f']
  | c => [c]

/-- A character of a key with a backslash before separators and spaces. -/
def escapeInKey (c : Char) : List Char :=
  if isSeparator c ∨ c = ' ' then ['\\', c] else escape c

def renderKey : List Char → List Char
  | [] => []
  | c :: rest =>
    (if c = '#' ∨ c = '!' then ['\\', c] else escapeInKey c) ++ rest.flatMap escapeInKey

def renderValue : List Char → List Char
  | [] => []
  | c :: rest => (if c = ' ' then ['\\', c] else escape c) ++ rest.flatMap escape

def renderEntry (entry : String × String) : List Char :=
  renderKey entry.1.toList ++ '=' :: renderValue entry.2.toList ++ ['\n']

def render (entries : Store String) : String :=
  String.ofList (entries.entries.flatMap renderEntry)

def toConfig (entries : Store String) : Config := entries.mapValues fun _ text => .text text

def ofConfig (c : Config) : Store String := c.mapValues fun _ value => value.plainText

end Conform.Properties
