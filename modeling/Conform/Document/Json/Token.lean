import Conform.Number.Literal
import Conform.Number.Radix

namespace Conform.Json

inductive Token where
  | openObject
  | closeObject
  | openArray
  | closeArray
  | comma
  | colon
  | null
  | flag (b : Bool)
  | number (text : List Char)
  | text (s : List Char)
deriving DecidableEq

namespace Token

def isSpace (c : Char) : Bool := c = ' ' || c = '\n' || c = '\t' || c = '\r'

def code? (digits : List Char) : Option Nat :=
  if digits.all (Radix.isDigit 16) then some (Radix.value 16 digits) else none

def isLead (code : Nat) : Bool := 0xD800 ≤ code && code < 0xDC00

def isTrail (code : Nat) : Bool := 0xDC00 ≤ code && code < 0xE000

def ofHalves (lead trail : Nat) : Char :=
  Char.ofNat (0x10000 + (lead - 0xD800) * 0x400 + (trail - 0xDC00))

def escaped? : Char → Option Char
  | '"' => some '"'
  | '\\' => some '\\'
  | '/' => some '/'
  | 'b' => some '\x08'
  | 'f' => some '\x0c'
  | 'n' => some '\n'
  | 'r' => some '\r'
  | 't' => some '\t'
  | _ => none

/-- Reads a string after its opening quote. A lead half needs a trail half behind it, and neither
stands alone. -/
def string : List Char → Option (List Char × List Char)
  | [] => none
  | '\\' :: 'u' :: a :: b :: c :: d :: rest =>
    match code? [a, b, c, d] with
    | none => none
    | some code =>
      if isLead code then
        match rest with
        | '\\' :: 'u' :: a :: b :: c :: d :: rest =>
          match code? [a, b, c, d] with
          | none => none
          | some trail =>
            if isTrail trail then
              (string rest).map fun (s, rest) => (ofHalves code trail :: s, rest)
            else none
        | _ => none
      else if isTrail code then none
      else (string rest).map fun (s, rest) => (Char.ofNat code :: s, rest)
  | '\\' :: c :: rest =>
    match escaped? c with
    | none => none
    | some e => (string rest).map fun (s, rest) => (e :: s, rest)
  | c :: rest =>
    if c = '"' then some ([], rest)
    else if c.toNat < 0x20 ∨ c = '\\' then none
    else (string rest).map fun (s, rest) => (c :: s, rest)

def isDigit (c : Char) : Bool := NumberLiteral.isDigit c

def digits (text : List Char) : Option (List Char × List Char) :=
  let ds := text.takeWhile isDigit
  if ds.isEmpty then none else some (ds, text.dropWhile isDigit)

def whole (text : List Char) : Option (List Char × List Char) :=
  match text with
  | '0' :: rest => some (['0'], rest)
  | _ => digits text

def fraction (text : List Char) : Option (List Char × List Char) :=
  match text with
  | '.' :: rest => (digits rest).map fun (ds, rest) => ('.' :: ds, rest)
  | _ => some ([], text)

def exponentSign : List Char → List Char × List Char
  | '+' :: rest => (['+'], rest)
  | '-' :: rest => (['-'], rest)
  | rest => ([], rest)

def exponent (text : List Char) : Option (List Char × List Char) :=
  match text with
  | [] => some ([], [])
  | c :: rest =>
    if c = 'e' ∨ c = 'E' then
      let (sign, rest) := exponentSign rest
      (digits rest).map fun (ds, rest) => ('e' :: sign ++ ds, rest)
    else some ([], text)

def minus : List Char → List Char × List Char
  | '-' :: rest => (['-'], rest)
  | rest => ([], rest)

def numberText (text : List Char) : Option (List Char × List Char) := do
  let (sign, text) := minus text
  let (w, text) ← whole text
  let (f, text) ← fraction text
  let (e, text) ← exponent text
  return (sign ++ w ++ f ++ e, text)

def next (cs : List Char) : Option (Token × List Char) :=
  match cs with
  | '\x7b' :: rest => some (openObject, rest)
  | '\x7d' :: rest => some (closeObject, rest)
  | '[' :: rest => some (openArray, rest)
  | ']' :: rest => some (closeArray, rest)
  | ',' :: rest => some (comma, rest)
  | ':' :: rest => some (colon, rest)
  | '"' :: rest => (string rest).map fun (s, rest) => (text s, rest)
  | 'n' :: 'u' :: 'l' :: 'l' :: rest => some (null, rest)
  | 't' :: 'r' :: 'u' :: 'e' :: rest => some (flag true, rest)
  | 'f' :: 'a' :: 'l' :: 's' :: 'e' :: rest => some (flag false, rest)
  | _ => (numberText cs).map fun (n, rest) => (number n, rest)

def run : (fuel : Nat) → List Char → Option (List Token)
  | 0, _ => none
  | fuel + 1, cs =>
    match cs.dropWhile isSpace with
    | [] => some []
    | cs =>
      match next cs with
      | none => none
      | some (token, rest) => (run fuel rest).map (token :: ·)

def all? (cs : List Char) : Option (List Token) := run (cs.length + 1) cs

end Token

end Conform.Json
