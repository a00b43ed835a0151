import Conform.Value.Basic

namespace Conform.Value

def infinity? : Value → Option Ordering
  | double (.infinite negative) => some (if negative then .lt else .gt)
  | _ => none

/-- The order of two numbers; none if one of them is no number at all. -/
def compareNumbers (a b : Value) : Option Ordering :=
  match a.infinity?, b.infinity? with
  | some x, some y => some (if x = y then .eq else x)
  | some x, none => b.toDecimal?.map fun _ => x
  | none, some y => a.toDecimal?.map fun _ => y.swap
  | none, none =>
    match a.toDecimal?, b.toDecimal? with
    | some x, some y => some (x.compare y)
    | _, _ => none

def compare (a b : Value) : Option Ordering :=
  match a, b with
  | text s, text t => some (Ord.compare s t)
  | a, b => if a.isNumeric && b.isNumeric then compareNumbers a b else none

def atLeast (a b : Value) : Bool :=
  a.compare b == some .gt || a.compare b == some .eq

def atMost (a b : Value) : Bool :=
  a.compare b == some .lt || a.compare b == some .eq

mutual

/-- Equality of form and content: decimals are equal by value, what is no number equals nothing,
and the order of a map's entries does not count. -/
def alike : Value → Value → Bool
  | null, null => true
  | flag a, flag b => a == b
  | text s, text t => s == t
  | integer m, integer n => m == n
  | double x, double y => x.same y
  | decimal x, decimal y => x.same y
  | list xs, list ys => alikeItems xs ys
  | map xs, map ys => xs.length == ys.length && alikeEntries xs ys
  | _, _ => false

def alikeItems : List Value → List Value → Bool
  | [], [] => true
  | x :: xs, y :: ys => x.alike y && alikeItems xs ys
  | _, _ => false

/-- Every entry of the first list has an equal one of the same key in the second. -/
def alikeEntries : List (String × Value) → List (String × Value) → Bool
  | [], _ => true
  | (k, x) :: xs, ys =>
    (match ys.lookup k with
      | some y => x.alike y
      | none => false) && alikeEntries xs ys

end

mutual

/-- Equality by meaning: numbers are equal by value, lists element by element, and all else as by
`alike`. -/
def same : Value → Value → Bool
  | list xs, list ys => sameItems xs ys
  | a, b => if a.isNumeric && b.isNumeric then a.compare b == some .eq else a.alike b

def sameItems : List Value → List Value → Bool
  | [], [] => true
  | x :: xs, y :: ys => x.same y && sameItems xs ys
  | _, _ => false

end

end Conform.Value
