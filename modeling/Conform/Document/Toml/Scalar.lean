import Conform.Document.Toml.Basic
import Conform.Number.Radix
import Conform.Text.Split

namespace Conform.Toml.Scalar

/-- Digits without the underscores between them; none if an underscore is not between digits. -/
def withoutUnderscores? (isDigit : Char → Bool) (text : List Char) : Option (List Char) :=
  let groups := Text.pieces '_' text
  if groups.all fun g => !g.isEmpty && g.all isDigit then some groups.flatten else none

def whole? (text : List Char) : Option (List Char) := do
  let digits ← withoutUnderscores? NumberLiteral.isDigit text
  if text.head? = some '0' ∧ text ≠ ['0'] then none else return digits

def readSign (text : List Char) : List Char × List Char :=
  match text with
  | '+' :: rest => (['+'], rest)
  | '-' :: rest => (['-'], rest)
  | _ => ([], text)

def bounded? (n : Int) : Option Toml := (Integer.ofInt? n).map .integer

def ofBase? (base : Nat) (text : List Char) : Option Toml := do
  let digits ← withoutUnderscores? (Radix.isDigit base) text
  bounded? (Radix.value base digits)

def decimalInteger? (text : List Char) : Option Toml := do
  let (sign, rest) := readSign text
  let digits ← whole? rest
  let n : Int := Nat.ofDigitChars 10 digits 0
  bounded? (if sign = ['-'] then -n else n)

def integer? (text : List Char) : Option Toml :=
  match text with
  | '0' :: 'x' :: digits => ofBase? 16 digits
  | '0' :: 'o' :: digits => ofBase? 8 digits
  | '0' :: 'b' :: digits => ofBase? 2 digits
  | _ => decimalInteger? text

def splitExponent (text : List Char) : List Char × Option (List Char) :=
  match text.span fun c => c ≠ 'e' && c ≠ 'E' with
  | (mantissa, _ :: exponent) => (mantissa, some exponent)
  | (mantissa, []) => (mantissa, none)

def exponentText? (text : List Char) : Option (List Char) :=
  let (sign, digits) := readSign text
  (withoutUnderscores? NumberLiteral.isDigit digits).map fun digits => 'e' :: sign ++ digits

/-- A number with a fraction or an exponent. A positive number may not be too large. -/
def float? (text : List Char) : Option Toml := do
  let (sign, rest) := readSign text
  let (mantissa, exponent?) := splitExponent rest
  let (w, fraction?) :=
    match Text.splitFirst? '.' mantissa with
    | some (w, f) => (w, some f)
    | none => (mantissa, none)
  let w ← whole? w
  let f ← (fraction?.map (withoutUnderscores? NumberLiteral.isDigit)).getD (some [])
  let e ← (exponent?.map exponentText?).getD (some [])
  if fraction?.isNone ∧ exponent?.isNone then none
  let x ← Binary64.ofChars? (sign ++ w ++ '.' :: f ++ e)
  if x = .infinite false then none else return .float x

def special? (text : List Char) : Option Toml :=
  let (sign, word) := readSign text
  if word = ['i', 'n', 'f'] then some (.float (.infinite (sign = ['-'])))
  else if word = ['n', 'a', 'n'] then some (.float .nan)
  else none

def flag? (text : List Char) : Option Toml :=
  if text = ['t', 'r', 'u', 'e'] then some (.flag true)
  else if text = ['f', 'a', 'l', 's', 'e'] then some (.flag false)
  else none

def ofChars? (text : List Char) : Option Toml :=
  (flag? text).or <| (special? text).or <| ((Datetime.ofChars? text).map .datetime).or <|
    (float? text).or (integer? text)

def isScalarChar (c : Char) : Bool :=
  c.isAlphanum || c = '_' || c = '+' || c = '-' || c = '.' || c = ':'

def read (text : List Char) : Option (Toml × List Char) :=
  let word := text.takeWhile isScalarChar
  let rest := text.dropWhile isScalarChar
  let (word, rest) :=
    match Datetime.readDate? word, rest with
    | some (_, []), ' ' :: d :: more =>
      if d.isDigit then
        (word ++ ' ' :: (d :: more).takeWhile isScalarChar, (d :: more).dropWhile isScalarChar)
      else (word, rest)
    | _, _ => (word, rest)
  (ofChars? word).map (·, rest)

end Conform.Toml.Scalar
