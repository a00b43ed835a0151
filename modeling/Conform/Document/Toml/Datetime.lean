import Conform.Number.Literal

namespace Conform.Toml

structure Date where
  year : Nat
  month : Nat
  day : Nat
deriving DecidableEq

structure Time where
  hour : Nat
  minute : Nat
  second : Nat
  nanosecond : Nat
deriving DecidableEq

inductive Offset where
  | universal
  | minutes (west : Bool) (n : Nat)
deriving DecidableEq

inductive Datetime where
  | date (d : Date)
  | time (t : Time)
  | both (d : Date) (t : Time) (offset? : Option Offset)
deriving DecidableEq

namespace Datetime

def isLeap (year : Nat) : Bool := year % 4 = 0 && (year % 100 ≠ 0 || year % 400 = 0)

def daysOf (year month : Nat) : Nat :=
  if month = 2 then if isLeap year then 29 else 28
  else if month ∈ [4, 6, 9, 11] then 30
  else 31

def number? (count : Nat) (text : List Char) : Option (Nat × List Char) :=
  let digits := text.take count
  if digits.length = count ∧ digits.all NumberLiteral.isDigit then
    some (Nat.ofDigitChars 10 digits 0, text.drop count)
  else none

def pair? (lo hi : Nat) (text : List Char) : Option (Nat × List Char) := do
  let (n, rest) ← number? 2 text
  if lo ≤ n ∧ n ≤ hi then return (n, rest) else none

def skip? (mark : Char) : List Char → Option (List Char)
  | [] => none
  | c :: rest => if c = mark then some rest else none

def readDate? (text : List Char) : Option (Date × List Char) := do
  let (year, text) ← number? 4 text
  let (month, text) ← pair? 1 12 (← skip? '-' text)
  let (day, text) ← pair? 1 (daysOf year month) (← skip? '-' text)
  return (⟨year, month, day⟩, text)

/-- Reads a fraction of a second; digits after the ninth do not count. -/
def readFraction? (text : List Char) : Option (Nat × List Char) :=
  match text with
  | '.' :: rest =>
    let digits := rest.takeWhile NumberLiteral.isDigit
    let nine := (digits ++ List.replicate 9 '0').take 9
    if digits.isEmpty then none
    else some (Nat.ofDigitChars 10 nine 0, rest.dropWhile NumberLiteral.isDigit)
  | _ => some (0, text)

def readTime? (text : List Char) : Option (Time × List Char) := do
  let (hour, text) ← pair? 0 23 text
  let (minute, text) ← pair? 0 59 (← skip? ':' text)
  let (second, text) ← pair? 0 60 (← skip? ':' text)
  let (nanosecond, text) ← readFraction? text
  return (⟨hour, minute, second, nanosecond⟩, text)

def readOffset? (text : List Char) : Option (Option Offset) :=
  match text with
  | [] => some none
  | ['Z'] => some (some .universal)
  | ['z'] => some (some .universal)
  | sign :: rest => do
    if sign ≠ '+' ∧ sign ≠ '-' then none
    let (hour, rest) ← pair? 0 23 rest
    let (minute, rest) ← pair? 0 59 (← skip? ':' rest)
    if rest.isEmpty then
      let n := 60 * hour + minute
      return some (.minutes (sign = '-' && n ≠ 0) n)
    else none

def isDivider (c : Char) : Bool := c = 'T' || c = 't' || c = ' '

def ofChars? (text : List Char) : Option Datetime :=
  match readDate? text with
  | some (d, []) => some (.date d)
  | some (d, c :: rest) => do
    if !isDivider c then none
    let (t, rest) ← readTime? rest
    return .both d t (← readOffset? rest)
  | none =>
    match readTime? text with
    | some (t, []) => some (.time t)
    | _ => none

def padded (width n : Nat) : List Char :=
  let digits := Nat.toDigits 10 n
  List.replicate (width - digits.length) '0' ++ digits

def Date.chars (d : Date) : List Char :=
  padded 4 d.year ++ '-' :: padded 2 d.month ++ '-' :: padded 2 d.day

def Time.chars (t : Time) : List Char :=
  let fraction :=
    if t.nanosecond = 0 then []
    else '.' :: ((padded 9 t.nanosecond).reverse.dropWhile (· = '0')).reverse
  padded 2 t.hour ++ ':' :: padded 2 t.minute ++ ':' :: padded 2 t.second ++ fraction

def Offset.chars : Offset → List Char
  | .universal => ['Z']
  | .minutes west n => (if west then '-' else '+') :: padded 2 (n / 60) ++ ':' :: padded 2 (n % 60)

def text (d : Datetime) : String :=
  String.ofList
    (match d with
    | date d => Date.chars d
    | time t => Time.chars t
    | both d t offset? =>
      Date.chars d ++ 'T' :: Time.chars t ++ (offset?.map Offset.chars).getD [])

end Datetime

end Conform.Toml
