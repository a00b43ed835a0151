namespace Conform.Shortest

/-- A number `significand * 2 ^ power` and the midpoints to its neighbours. The midpoint below is
nearer by half if the number is the least with its power. The midpoints belong to the number if its
significand is even. -/
structure Interval where
  significand : Nat
  power : Int
  leastOfPower : Bool

namespace Interval

def center (v : Interval) : Nat := 4 * v.significand

def low (v : Interval) : Nat := if v.leastOfPower then v.center - 1 else v.center - 2

def high (v : Interval) : Nat := v.center + 2

def numerator (v : Interval) (place : Int) (x : Nat) : Nat :=
  x * Nat.pow 2 (v.power - 2).toNat * Nat.pow 10 (-place).toNat

def denominator (v : Interval) (place : Int) : Nat :=
  Nat.pow 2 (2 - v.power).toNat * Nat.pow 10 place.toNat

def contains (v : Interval) (place : Int) (n : Nat) : Bool :=
  let x := n * v.denominator place
  let low := v.numerator place v.low
  let high := v.numerator place v.high
  if v.significand % 2 = 0 then low ≤ x && x ≤ high else low < x && x < high

/-- The multiple of `10 ^ place` in the interval that is nearest to the number, the greater one of
two that are equally near. -/
def onGrid? (v : Interval) (place : Int) : Option Nat :=
  let num := v.numerator place v.center
  let den := v.denominator place
  let below := num / den
  match v.contains place below, v.contains place (below + 1) with
  | true, true => some (if num - below * den < (below + 1) * den - num then below else below + 1)
  | true, false => some below
  | false, true => some (below + 1)
  | false, false => none

def leadingPlace (v : Interval) : Int :=
  let num := v.numerator 0 v.center
  let den := v.denominator 0
  let guess : Int := (Nat.toDigits 10 num).length - (Nat.toDigits 10 den).length
  if num * Nat.pow 10 (-guess).toNat < den * Nat.pow 10 guess.toNat then guess - 1 else guess

/-- The first grid with a point in the interval, from coarse to fine. -/
def search (v : Interval) : (grids : Nat) → (place : Int) → Nat × Int
  | 0, place => (v.numerator place v.center / v.denominator place, place)
  | grids + 1, place =>
    match v.onGrid? place with
    | some n => (n, place)
    | none => search v grids (place - 1)

end Interval

def dropZeros : (limit : Nat) → Nat × Int → Nat × Int
  | 0, d => d
  | limit + 1, (n, place) =>
    if n % 10 = 0 ∧ n ≠ 0 then dropZeros limit (n / 10, place + 1) else (n, place)

def shortest (v : Interval) : Nat × Int :=
  dropZeros 17 (v.search 17 v.leadingPlace)

end Conform.Shortest
