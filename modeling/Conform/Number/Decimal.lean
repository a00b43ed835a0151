namespace Conform

/-- The number `unscaled * 10 ^ (-scale)`. -/
structure Decimal where
  unscaled : Int
  scale : Int
deriving DecidableEq

namespace Decimal

def ofInt (n : Int) : Decimal := ⟨n, 0⟩

def digitCount (n : Nat) : Nat := (Nat.toDigits 10 n).length

/-- The place of the leading digit: a number other than zero lies between `10 ^ (magnitude - 1)`
and `10 ^ magnitude`, the sign apart. -/
def magnitude (d : Decimal) : Int := digitCount d.unscaled.natAbs - d.scale

/-- Two numbers as multiples of one power of ten. -/
def aligned (a b : Decimal) : Int × Int :=
  let s := max a.scale b.scale
  (a.unscaled * Nat.pow 10 (s - a.scale).toNat, b.unscaled * Nat.pow 10 (s - b.scale).toNat)

/-- The order of the numbers. Signs and magnitudes decide first, so that only numbers of one
magnitude are brought to a common power of ten. -/
def compare (a b : Decimal) : Ordering :=
  let sign := a.unscaled.sign
  if sign ≠ b.unscaled.sign ∨ sign = 0 then Ord.compare sign b.unscaled.sign
  else if a.magnitude ≠ b.magnitude then
    let order := Ord.compare a.magnitude b.magnitude
    if sign < 0 then order.swap else order
  else
    let (x, y) := aligned a b
    Ord.compare x y

def same (a b : Decimal) : Bool := a.compare b == .eq

/-- Digits that remain of `places` fractional digits of `n` once trailing zeros are dropped. -/
def significantPlaces : (places : Nat) → (n : Int) → Nat
  | 0, _ => 0
  | places + 1, n => if n % 10 = 0 then significantPlaces places (n / 10) else places + 1

def fractionDigits (d : Decimal) : Nat :=
  if d.unscaled = 0 then 0 else significantPlaces d.scale.toNat d.unscaled

def signText (n : Int) : List Char := if n < 0 then ['-'] else []

def pointed (digits : List Char) (places : Nat) : List Char :=
  if places < digits.length then
    digits.take (digits.length - places) ++ '.' :: digits.drop (digits.length - places)
  else '0' :: '.' :: List.replicate (places - digits.length) '0' ++ digits

def scientificDigits : List Char → List Char
  | [] => []
  | [d] => [d]
  | d :: more => d :: '.' :: more

def integerText (n : Int) : List Char := signText n ++ Nat.toDigits 10 n.natAbs

/-- A number far below one is written in scientific notation, one with more than fifteen zeros to
append with the exponent `e+`, and every other one in positional notation with `scale` places. -/
def chars (d : Decimal) : List Char :=
  let digits := Nat.toDigits 10 d.unscaled.natAbs
  let scale := if d.unscaled = 0 then 0 else d.scale
  signText d.unscaled ++
    if 0 < scale ∧ 5 < scale - digits.length then
      scientificDigits digits ++ 'E' :: integerText (digits.length - 1 - scale)
    else if 15 < -scale then digits ++ 'e' :: '+' :: integerText (-scale)
    else if scale ≤ 0 then digits ++ List.replicate (-scale).toNat '0'
    else pointed digits scale.toNat

def text (d : Decimal) : String := String.ofList d.chars

end Decimal

end Conform
