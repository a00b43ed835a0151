import Conform.Number.Literal
import Conform.Number.Shortest

namespace Conform

abbrev Binary64.Fraction := Fin 0x10000000000000

/-- A finite number has a sign, a biased exponent and the fraction bits of its significand; all
that are not numbers are one value. -/
inductive Binary64 where
  | nan
  | infinite (negative : Bool)
  | finite (negative : Bool) (exponent : Fin 2047) (fraction : Binary64.Fraction)
deriving DecidableEq

namespace Binary64

def isFinite : Binary64 → Bool
  | finite .. => true
  | _ => false

def zero (negative : Bool) : Binary64 := finite negative 0 0

def leadingBit : Nat := 0x10000000000000

def significand (exponent : Fin 2047) (fraction : Fraction) : Nat :=
  if exponent.val = 0 then fraction.val else leadingBit + fraction.val

/-- The power of two that the significand counts. -/
def power (exponent : Fin 2047) : Int := max exponent.val 1 - 1075

/-- Equality of numbers: zeros are equal whatever their sign, and what is no number equals
nothing. -/
def same : Binary64 → Binary64 → Bool
  | nan, _ => false
  | _, nan => false
  | infinite a, infinite b => a == b
  | finite n e f, finite m e' f' => e == e' && f == f' && (n == m || significand e f == 0)
  | _, _ => false

/-- `num / den` rounded to the nearest integer, halves to the even neighbour. -/
def roundDiv (num den : Nat) : Nat :=
  let quotient := num / den
  let rest := 2 * (num % den)
  if rest < den ∨ (rest = den ∧ quotient % 2 = 0) then quotient else quotient + 1

/-- The number `significand * 2 ^ power`, for a significand below `2 ^ 53` that has its leading bit
or the least power. -/
def encode (negative : Bool) (significand : Nat) (power : Int) : Binary64 :=
  if significand < leadingBit then finite negative 0 (Fin.ofNat _ significand)
  else if h : (power + 1075).toNat < 2047 then
    finite negative ⟨(power + 1075).toNat, h⟩ (Fin.ofNat _ (significand - leadingBit))
  else infinite negative

/-- The number nearest to `num / den`, the one with an even significand of two that are equally
near. -/
def ofRatio (negative : Bool) (num den : Nat) : Binary64 :=
  if num = 0 then zero negative
  else
    let guess : Int := (num.log2 : Int) - den.log2
    let lead :=
      if num * Nat.pow 2 (-guess).toNat < den * Nat.pow 2 guess.toNat then guess - 1 else guess
    let power := max (lead - 52) (-1074)
    let significand := roundDiv (num * Nat.pow 2 (-power).toNat) (den * Nat.pow 2 power.toNat)
    if significand = 2 * leadingBit then encode negative leadingBit (power + 1)
    else encode negative significand power

def ofDigits (negative : Bool) (digits : Nat) (place : Int) : Binary64 :=
  let magnitude : Int := Decimal.digitCount digits + place
  if digits = 0 ∨ magnitude < -330 then zero negative
  else if 310 < magnitude then infinite negative
  else ofRatio negative (digits * Nat.pow 10 place.toNat) (Nat.pow 10 (-place).toNat)

def ofLiteral (l : NumberLiteral) : Binary64 :=
  ofDigits l.negative l.digits (l.exponent - l.fraction.length)

def ofChars? (text : List Char) : Option Binary64 :=
  let (negative, word) := NumberLiteral.readSign text
  let word := String.ofList (word.map Char.toLower)
  if word = "inf" ∨ word = "infinity" then some (infinite negative)
  else if word = "nan" then some nan
  else (NumberLiteral.read? text).map ofLiteral

def shortestDigits (exponent : Fin 2047) (fraction : Fraction) : Nat × Int :=
  if significand exponent fraction = 0 then (0, 0)
  else
    Shortest.shortest
      { significand := significand exponent fraction
        power := power exponent
        leastOfPower := fraction.val = 0 && 1 < exponent.val }

/-- The decimal that a finite number is taken for: its shortest text, read exactly. -/
def toDecimal? : Binary64 → Option Decimal
  | finite negative e f =>
    let (digits, place) := shortestDigits e f
    let n : Int := digits * Nat.pow 10 place.toNat
    some ⟨if negative then -n else n, (-place).toNat⟩
  | _ => none

def signText (negative : Bool) : List Char := if negative then ['-'] else []

def positional (digits : Nat) (place : Int) : List Char :=
  let cs := Nat.toDigits 10 digits
  if 0 ≤ place then cs ++ List.replicate place.toNat '0' else Decimal.pointed cs (-place).toNat

/-- The shortest text that reads back, in positional notation whatever the magnitude. -/
def chars : Binary64 → List Char
  | nan => ['N', 'a', 'N']
  | infinite negative => signText negative ++ ['i', 'n', 'f']
  | finite negative e f =>
    let (digits, place) := shortestDigits e f
    signText negative ++ positional digits place

def text (x : Binary64) : String := String.ofList x.chars

end Binary64

end Conform
