import Conform.Number.Decimal
import Conform.Number.Integer

namespace Conform

structure NumberLiteral where
  negative : Bool
  whole : List Char
  fraction : List Char
  exponent : Int
deriving DecidableEq

namespace NumberLiteral

def isDigit (c : Char) : Bool := '0' ≤ c && c ≤ '9'

/-- Reads an optional sign; `true` stands for a minus. -/
def readSign : List Char → Bool × List Char
  | '-' :: rest => (true, rest)
  | '+' :: rest => (false, rest)
  | rest => (false, rest)

def readInteger? (text : List Char) : Option Int :=
  let (negative, digits) := readSign text
  if digits.isEmpty || !digits.all isDigit then none
  else
    let n : Int := Nat.ofDigitChars 10 digits 0
    some (if negative then -n else n)

def readExponent? : List Char → Option Int
  | [] => some 0
  | c :: rest => if c = 'e' ∨ c = 'E' then readInteger? rest else none

def read? (text : List Char) : Option NumberLiteral :=
  let (negative, rest) := readSign text
  let whole := rest.takeWhile isDigit
  let rest := rest.dropWhile isDigit
  let (fraction, rest) :=
    match rest with
    | '.' :: after => (after.takeWhile isDigit, after.dropWhile isDigit)
    | _ => ([], rest)
  if whole.isEmpty && fraction.isEmpty then none
  else (readExponent? rest).map (⟨negative, whole, fraction, ·⟩)

def digits (l : NumberLiteral) : Nat := Nat.ofDigitChars 10 (l.whole ++ l.fraction) 0

end NumberLiteral

namespace Decimal

/-- The decimal that a literal writes; none if its scale does not fit into 64 bits. -/
def ofLiteral? (l : NumberLiteral) : Option Decimal :=
  let scale : Int := l.fraction.length - l.exponent
  if Integer.fits scale then
    some ⟨if l.negative then -(l.digits : Int) else l.digits, scale⟩
  else none

def ofChars? (text : List Char) : Option Decimal :=
  (NumberLiteral.read? text).bind ofLiteral?

end Decimal

end Conform
