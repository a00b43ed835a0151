namespace Conform.Unicode

abbrev Ranges := List (Nat × Nat)

namespace Ranges

def has (r : Ranges) (n : Nat) : Bool := r.any fun (lo, hi) => lo ≤ n && n ≤ hi

def hasChar (r : Ranges) (c : Char) : Bool := r.has c.toNat

/-- Joins ranges that overlap or touch to the one before them, given in order of their starts. -/
def coalesce : (current : Nat × Nat) → Ranges → Ranges
  | current, [] => [current]
  | (lo, hi), (l, h) :: rest =>
    if l ≤ hi + 1 then coalesce (lo, max hi h) rest else (lo, hi) :: coalesce (l, h) rest

def normalize (r : Ranges) : Ranges :=
  match (r.filter fun (lo, hi) => lo ≤ hi).mergeSort (fun a b => a.1 ≤ b.1) with
  | [] => []
  | first :: rest => coalesce first rest

def union (a b : Ranges) : Ranges := normalize (a ++ b)

def unions (sets : List Ranges) : Ranges := normalize sets.flatten

def surrogates : Nat × Nat := (0xD800, 0xDFFF)

def lastCode : Nat := 0x10FFFF

def gaps : (next : Nat) → Ranges → Ranges
  | next, [] => if next ≤ lastCode then [(next, lastCode)] else []
  | next, (lo, hi) :: rest =>
    if next < lo then (next, lo - 1) :: gaps (hi + 1) rest else gaps (hi + 1) rest

def complement (r : Ranges) : Ranges := gaps 0 (normalize (surrogates :: r))

def intersection (a b : Ranges) : Ranges := complement (complement a ++ complement b)

def difference (a b : Ranges) : Ranges := complement (complement a ++ b)

def symmetricDifference (a b : Ranges) : Ranges := union (difference a b) (difference b a)

end Ranges

end Conform.Unicode
