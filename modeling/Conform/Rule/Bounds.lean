import Conform.Value.Order

namespace Conform.Bounds

def isBound (v : Value) : Bool := v.isText || v.toDecimal?.isSome

def sameFamily (a b : Value) : Bool := (a.isNumeric && b.isNumeric) || (a.isText && b.isText)

/-- The two bounds of a range: bounds of one family in order. -/
def range? : Value → Option (Value × Value)
  | .list [lo, hi] =>
    if isBound lo && isBound hi && sameFamily lo hi && lo.atMost hi then some (lo, hi) else none
  | _ => none

def size? : Value → Option Nat
  | .integer n => if 0 ≤ n.toInt then some n.toInt.toNat else none
  | _ => none

def sizes? : Value → Option (Nat × Nat)
  | .list [lo, hi] =>
    match size? lo, size? hi with
    | some lo, some hi => if lo ≤ hi then some (lo, hi) else none
    | _, _ => none
  | _ => none

end Conform.Bounds
