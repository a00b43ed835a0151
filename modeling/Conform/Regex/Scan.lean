import Conform.Number.Radix
import Conform.Regex.Expression
import Conform.Text.Split
import Conform.Unicode.BinaryProperty

namespace Conform.Regex.Scan

mutual

def skipBlanks : List Char → List Char
  | [] => []
  | c :: rest =>
    if Text.isBlank c then skipBlanks rest else if c = '#' then skipComment rest else c :: rest

def skipComment : List Char → List Char
  | [] => []
  | c :: rest => if c = '\n' then skipBlanks rest else skipComment rest

end

/-- What is left where blanks and comments may not count. -/
def skip (free : Bool) (text : List Char) : List Char :=
  if free then skipBlanks text else text

/-- The character after the first one, past blanks that do not count; none at the end. -/
def next? (free : Bool) : List Char → Option (List Char)
  | [] => none
  | _ :: rest =>
    match skip free rest with
    | [] => none
    | text => some text

/-- The character at which a comment or blanks after the first character end, as far as one
character inside a comment. -/
def peekPastBlanks : (comment : Bool) → List Char → Option Char
  | _, [] => none
  | comment, c :: rest =>
    if Text.isBlank c then peekPastBlanks comment rest
    else if comment = false ∧ c = '#' then peekPastBlanks true rest
    else some c

def peek (free : Bool) : List Char → Option Char
  | [] => none
  | _ :: rest =>
    if free then (peekPastBlanks false rest).or rest.head? else rest.head?

def hexDigits (free : Bool) : Nat → List Char → Option (List Char × List Char)
  | 0, text => some ([], text)
  | count + 1, text =>
    match text with
    | [] => none
    | c :: rest =>
      if Radix.isDigit 16 c then
        (hexDigits free count (skip free rest)).map fun (digits, text) => (c :: digits, text)
      else none

/-- Reads characters up to a closing brace; `behind` says what is skipped behind it. -/
def upToBrace (free : Bool) (p : Char → Bool) (behind : List Char → List Char) :
    (fuel : Nat) → List Char → Option (List Char × List Char)
  | 0, _ => none
  | fuel + 1, text =>
    match skip free text with
    | [] => none
    | c :: rest =>
      if c = '\x7d' then some ([], behind rest)
      else if p c then
        (upToBrace free p behind fuel rest).map fun (name, text) => (c :: name, text)
      else none

def hexLiteral (free : Bool) (count : Nat) (text : List Char) : Option (Literal × List Char) := do
  match skip free text with
  | '\x7b' :: rest =>
    let (digits, rest) ← upToBrace free (Radix.isDigit 16) (skip free) (rest.length + 1) rest
    if digits.isEmpty then none
    let c ← Radix.charOfCode? (Radix.value 16 digits)
    return (⟨c, false⟩, rest)
  | text =>
    let (digits, rest) ← hexDigits free count text
    let c ← Radix.charOfCode? (Radix.value 16 digits)
    return (⟨c, count = 2⟩, rest)

def splitNotEqual? : List Char → Option (List Char × List Char)
  | '!' :: '=' :: rest => some ([], rest)
  | c :: rest => (splitNotEqual? rest).map fun (before, after) => (c :: before, after)
  | [] => none

def propertyQuery (name : List Char) : PropertyQuery :=
  let parts := (splitNotEqual? name).or ((Text.splitFirst? ':' name).or (Text.splitFirst? '=' name))
  match parts with
  | some (property, value) => .value (String.ofList property) (String.ofList value)
  | none => .name (String.ofList name)

def property (free : Bool) (text : List Char) : Option (PropertyQuery × List Char) :=
  match skip free text with
  | [] => none
  | '\x7b' :: rest =>
    (upToBrace free (fun _ => true) id (rest.length + 1) rest).map fun (name, rest) =>
      (propertyQuery name, rest)
  | c :: rest => if c = '\\' then none else some (.name (String.ofList [c]), skip free rest)

inductive Primitive where
  | literal (l : Literal)
  | assertion (a : Assertion)
  | shorthand (s : Shorthand) (negated : Bool)
  | property (q : PropertyQuery) (negated : Bool)

def isMeta (c : Char) : Bool :=
  c ∈ ['\\', '.', '+', '*', '?', '(', ')', '|', '[', ']', '\x7b', '\x7d', '^', '$', '#', '&', '-',
    '~']

/-- Characters that may be escaped to stand for themselves: of ASCII, all but letters, digits and
angle brackets. -/
def isEscapable (c : Char) : Bool :=
  isMeta c || (c.toNat < 128 && !c.isAlphanum && c != '<' && c != '>')

def isBoundaryNameChar (c : Char) : Bool := c.isAlpha || c = '-'

def boundary? (name : List Char) : Option Assertion :=
  match String.ofList name with
  | "start" => some .wordStart
  | "end" => some .wordEnd
  | "start-half" => some .wordStartHalf
  | "end-half" => some .wordEndHalf
  | _ => none

/-- Reads what follows `\b`: a name in braces narrows the boundary, and braces that cannot hold a
name are left for a repetition. -/
def wordBoundary (free : Bool) (text : List Char) : Option (Assertion × List Char) :=
  match text with
  | '\x7b' :: rest =>
    match skip free rest with
    | [] => none
    | c :: _ =>
      if isBoundaryNameChar c then do
        let (name, rest) ← upToBrace free isBoundaryNameChar id (rest.length + 1) rest
        return (← boundary? name, rest)
      else some (.wordBoundary, text)
  | _ => some (.wordBoundary, text)

def escape (free : Bool) : List Char → Option (Primitive × List Char)
  | [] => none
  | c :: rest =>
    let literal (c : Char) : Option (Primitive × List Char) := some (.literal ⟨c, false⟩, rest)
    let assertion (a : Assertion) : Option (Primitive × List Char) := some (.assertion a, rest)
    let shorthand (s : Shorthand) (negated : Bool) : Option (Primitive × List Char) :=
      some (.shorthand s negated, rest)
    if isEscapable c then literal c
    else
      match c with
      | 'x' => (hexLiteral free 2 rest).map fun (l, rest) => (.literal l, rest)
      | 'u' => (hexLiteral free 4 rest).map fun (l, rest) => (.literal l, rest)
      | 'U' => (hexLiteral free 8 rest).map fun (l, rest) => (.literal l, rest)
      | 'p' => (property free rest).map fun (q, rest) => (.property q false, rest)
      | 'P' => (property free rest).map fun (q, rest) => (.property q true, rest)
      | 'd' => shorthand .digit false
      | 'D' => shorthand .digit true
      | 's' => shorthand .space false
      | 'S' => shorthand .space true
      | 'w' => shorthand .word false
      | 'W' => shorthand .word true
      | 'a' => literal '\x07'
      | 'f' => literal '\x0c'
      | 't' => literal '\t'
      | 'n' => literal '\n'
      | 'r' => literal '\r'
      | 'v' => literal '\x0b'
      | 'A' => assertion .startText
      | 'z' => assertion .endText
      | 'b' => (wordBoundary free rest).map fun (a, rest) => (.assertion a, rest)
      | 'B' => assertion .notWordBoundary
      | '<' => assertion .wordStart
      | '>' => assertion .wordEnd
      | _ => none

def isDigit (c : Char) : Bool := '0' ≤ c && c ≤ '9'

/-- Digits, between which blanks may not count. -/
def digits (free : Bool) : (fuel : Nat) → List Char → List Char × List Char
  | 0, text => ([], text)
  | fuel + 1, text =>
    match text with
    | [] => ([], [])
    | c :: rest =>
      if isDigit c then
        let (more, text) := digits free fuel (skip free rest)
        (c :: more, text)
      else ([], text)

def skipAfterCount (free : Bool) : (fuel : Nat) → List Char → List Char
  | 0, text => text
  | fuel + 1, text =>
    match text with
    | [] => []
    | c :: rest => if Text.isBlank c then skipAfterCount free fuel (skip free rest) else text

def count (free : Bool) (text : List Char) : Option (Nat × List Char) :=
  let text := Text.trimStart text
  let (ds, text) := digits free text.length text
  let n := Nat.ofDigitChars 10 ds 0
  if ds.isEmpty ∨ 0x100000000 ≤ n then none
  else some (n, skipAfterCount free text.length text)

/-- Reads a mark of reluctance; a repetition without it is greedy. -/
def greed : List Char → Bool × List Char
  | '?' :: rest => (false, rest)
  | text => (true, text)

def counts (free : Bool) (text : List Char) :
    Option (((Nat × Option Nat) × Bool) × List Char) := do
  let (min, text) ← count free (skip free text)
  let (max, text) ←
    match text with
    | ',' :: rest =>
      match skip free rest with
      | '\x7d' :: _ => some (none, skip free rest)
      | rest => (count free rest).map fun (max, rest) => (some max, rest)
    | _ => some (some min, text)
  if max.any (· < min) then none
  match text with
  | '\x7d' :: rest =>
    let (greedy, rest) := greed (skip free rest)
    return (((min, max), greedy), rest)
  | _ => none

def flag? : Char → Option Flag
  | 'i' => some .caseInsensitive
  | 'm' => some .multiLine
  | 's' => some .dotAll
  | 'U' => some .swapGreed
  | 'u' => some .unicode
  | 'R' => some .crlf
  | 'x' => some .ignoreBlanks
  | _ => none

/-- Reads flags up to a colon or a closing parenthesis, which is left. No flag is named twice, and
a minus sign is written once at most, before some flag. -/
def flags : (minus : Bool) → FlagList → List Char → Option (FlagList × List Char)
  | _, _, [] => none
  | minus, l, c :: rest =>
    if c = ':' ∨ c = ')' then
      if minus ∧ l.off.isEmpty then none else some (l, c :: rest)
    else if c = '-' then if minus then none else flags true l rest
    else
      match flag? c with
      | none => none
      | some f =>
        if f ∈ l.on ∨ f ∈ l.off then none
        else if minus then flags minus ⟨l.on, f :: l.off⟩ rest
        else flags minus ⟨f :: l.on, l.off⟩ rest

def isNameStart (c : Char) : Bool := c = '_' || Unicode.BinaryProperty.alphabetic.hasChar c

def isNameChar (c : Char) : Bool :=
  c ∈ ['_', '.', '[', ']'] || Unicode.BinaryProperty.alphabetic.hasChar c ||
    Unicode.GeneralCategory.number.hasChar c

def groupName (text : List Char) : Option (List Char × List Char) :=
  match Text.splitFirst? '>' text with
  | some (c :: name, rest) =>
    if isNameStart c && name.all isNameChar then some (c :: name, rest) else none
  | _ => none

end Conform.Regex.Scan
