import Conform.Number.Binary64
import Conform.Regex
import Conform.Text.Blank
import Conform.Text.Split

namespace Conform.LogFilter

inductive Failure where
  | malformedDirective
  | unknownLevel
  /-- The value of a field is no regular expression. -/
  | malformedPattern
  /-- The value of a field is a regular expression with a word boundary. -/
  | wordBoundary
deriving DecidableEq

def Failure.reason : Failure → String
  | malformedDirective => "invalid filter directive"
  | unknownLevel =>
    "error parsing level filter: expected one of \"off\", \"error\", \"warn\", \"info\", " ++
      "\"debug\", \"trace\", or a number 0-5"
  | malformedPattern => "invalid field filter: error building NFA"
  | wordBoundary =>
    "invalid field filter: unsupported regex feature for DFAs: cannot build DFAs for regexes " ++
      "with Unicode word boundaries; switch to ASCII word boundaries, or heuristically enable " ++
      "Unicode word boundaries or use a different regex engine"

/-- Levels by their names, in any case, or by numbers up to five; no text is a level too. -/
def isLevel (text : List Char) : Bool :=
  let digits :=
    match text with
    | '+' :: rest => rest
    | _ => text
  if !digits.isEmpty && digits.all Char.isDigit then Nat.ofDigitChars 10 digits 0 ≤ 5
  else
    String.ofList (text.map Char.toLower) ∈ ["", "off", "error", "warn", "info", "debug", "trace"]

def dropBytes : Nat → List Char → List Char
  | 0, text => text
  | _, [] => []
  | n, c :: rest => dropBytes (n - c.utf8Size) rest
termination_by _ text => text.length

def takeBytes : Nat → List Char → List Char
  | 0, _ => []
  | _, [] => []
  | n, c :: rest => c :: takeBytes (n - c.utf8Size) rest
termination_by _ text => text.length

/-- What is wrong with a field: a name, which a value may follow. A value that is no number is a
regular expression, which a deterministic automaton has to match. -/
def fieldFailure? (field : List Char) : Option Failure :=
  match Text.pieces '=' field with
  | _ :: value :: _ =>
    if (Binary64.ofChars? value).isSome then none
    else
      match Regex.parse? value with
      | none => some .malformedPattern
      | some p => if p.anyLook (·.isUnicodeWord) then some .wordBoundary else none
  | _ => none

/-- What a directive was read up to. Fields and levels begin after a number of bytes. -/
inductive State where
  | start
  | levelOrTarget
  | span
  | field (start : Nat)
  | fields
  | target
  | level (start : Nat)
deriving DecidableEq

/-- Goes on by a character that begins after a number of bytes in the directive of the given
text. -/
def step (text : List Char) (offset : Nat) (c : Char) : State → Except Failure State
  | .start =>
    if c = '[' then .ok .span
    else if c ∈ ['-', ':', '_'] ∨ Unicode.isAlphanumeric c then .ok .levelOrTarget
    else .error .malformedDirective
  | .levelOrTarget =>
    if c = '=' then .ok (.level (offset + 1))
    else if c = '[' then .ok .span
    else .ok .levelOrTarget
  | .span =>
    if c = ']' then .ok .target
    else if c = '\x7b' then .ok (.field (offset + 1))
    else .ok .span
  | .field start =>
    if c = '\x7d' then
      if start = offset then .error .malformedDirective
      else
        match fieldFailure? (takeBytes (offset - start) (dropBytes start text)) with
        | some failure => .error failure
        | none => .ok .fields
    else .ok (.field start)
  | .fields => if c = ']' then .ok .target else .error .malformedDirective
  | .target => if c = '=' then .ok (.level (offset + 1)) else .error .malformedDirective
  | .level start => .ok (.level start)

def run (text : List Char) (offset : Nat) (st : State) : List Char → Except Failure State
  | [] => .ok st
  | c :: rest =>
    match step text offset c st with
    | .ok st => run text (offset + c.utf8Size) st rest
    | .error failure => .error failure

/-- What is wrong with a directive. Its form is read without the blanks around it; its fields and
its level begin at the same distances from the start of the text with blanks. -/
def directiveFailure? (text : List Char) : Option Failure :=
  match run text 0 .start (Text.trim text) with
  | .ok .levelOrTarget => none
  | .ok .target => none
  | .ok (.level start) => if isLevel (dropBytes start text) then none else some .unknownLevel
  | .ok _ => some .malformedDirective
  | .error failure => some failure

def failure? (filter : String) : Option Failure :=
  ((Text.pieces ',' filter.toList).filter (!·.isEmpty)).findSome? directiveFailure?

def Failure.message (filter : String) (failure : Failure) : String :=
  "Invalid log filter '" ++ filter ++ "': " ++ failure.reason

end Conform.LogFilter
