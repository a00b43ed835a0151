import Conform.Number.Radix

namespace Conform.Toml.Quoted

def isPlain (c : Char) : Bool := c = '\t' || (0x20 ≤ c.toNat && c.toNat ≠ 0x7F)

def isBlank (c : Char) : Bool := c = ' ' || c = '\t'

def code? (count : Nat) (text : List Char) : Option Char :=
  let digits := text.take count
  if digits.length = count ∧ digits.all (Radix.isDigit 16) then
    Radix.charOfCode? (Radix.value 16 digits)
  else none

def escaped? : Char → Option Char
  | 'b' => some '\x08'
  | 't' => some '\t'
  | 'n' => some '\n'
  | 'f' => some '\x0c'
  | 'r' => some '\r'
  | '"' => some '"'
  | '\\' => some '\\'
  | _ => none

def escape (text : List Char) : Option (Char × List Char) :=
  match text with
  | 'u' :: rest => (code? 4 rest).map (·, rest.drop 4)
  | 'U' :: rest => (code? 8 rest).map (·, rest.drop 8)
  | c :: rest => (escaped? c).map (·, rest)
  | [] => none

def onOneLine (quote : Char) : (fuel : Nat) → List Char → Option (List Char × List Char)
  | 0, _ => none
  | _, [] => none
  | fuel + 1, c :: rest =>
    if c = quote then some ([], rest)
    else if c = '\\' ∧ quote = '"' then do
      let (e, rest) ← escape rest
      let (s, rest) ← onOneLine quote fuel rest
      return (e :: s, rest)
    else if isPlain c then (onOneLine quote fuel rest).map fun (s, rest) => (c :: s, rest)
    else none

def afterLineEnd? : List Char → Option (List Char)
  | '\n' :: rest => some rest
  | '\r' :: '\n' :: rest => some rest
  | _ => none

def skipSpace : (fuel : Nat) → List Char → List Char
  | 0, text => text
  | fuel + 1, text =>
    match afterLineEnd? text, text with
    | some rest, _ => skipSpace fuel rest
    | none, c :: rest => if isBlank c then skipSpace fuel rest else text
    | none, [] => []

/-- What follows a backslash at the end of a line: the next character that is no space. -/
def afterContinuation? (text : List Char) : Option (List Char) :=
  (afterLineEnd? (text.dropWhile isBlank)).map fun rest => skipSpace rest.length rest

/-- Reads a string on several lines after its three opening quotes. Up to two quotes may stand
before the three that close it. -/
def onLines (quote : Char) : (fuel : Nat) → List Char → Option (List Char × List Char)
  | 0, _ => none
  | _, [] => none
  | fuel + 1, c :: rest =>
    let more (c : Char) (rest : List Char) : Option (List Char × List Char) :=
      (onLines quote fuel rest).map fun (s, rest) => (c :: s, rest)
    if c = quote then
      let run := (c :: rest).takeWhile (· = quote)
      if 3 ≤ run.length then
        if run.length ≤ 5 then
          some (List.replicate (run.length - 3) quote, (c :: rest).drop run.length)
        else none
      else more c rest
    else if c = '\\' ∧ quote = '"' then
      match afterContinuation? rest with
      | some rest => onLines quote fuel rest
      | none =>
        match escape rest with
        | some (e, rest) => more e rest
        | none => none
    else
      match afterLineEnd? (c :: rest) with
      | some rest => more '\n' rest
      | none => if isPlain c then more c rest else none

def read (quote : Char) (text : List Char) : Option (List Char × List Char) :=
  match text with
  | a :: b :: rest =>
    if a = quote ∧ b = quote then
      let rest := (afterLineEnd? rest).getD rest
      onLines quote (rest.length + 1) rest
    else onOneLine quote (text.length + 1) text
  | _ => onOneLine quote (text.length + 1) text

def readKey (quote : Char) (text : List Char) : Option (List Char × List Char) :=
  onOneLine quote (text.length + 1) text

end Conform.Toml.Quoted
