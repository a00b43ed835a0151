import Conform.Text.Split
import Conform.Unicode.Ranges

/-!
The written form of character tables: entries between blanks, code points in hexadecimal, ranges as
`41-5A`, and runs that map every `step`-th member of a range as `41-5A=61` or `100-12E/2=101`.
-/

namespace Conform.Unicode

/-- Members `first`, `first + step`, … up to `last`, mapped to `image`, `image + step`, … -/
structure Run where
  first : Nat
  last : Nat
  step : Nat
  image : Nat

namespace Run

def maps (r : Run) (n : Nat) : Bool := r.first ≤ n && n ≤ r.last && (n - r.first) % r.step == 0

def apply (runs : List Run) (n : Nat) : Nat :=
  match runs.find? (maps · n) with
  | some r => r.image + (n - r.first)
  | none => n

def pairs (r : Run) : List (Nat × Nat) :=
  (List.range ((r.last - r.first) / r.step + 1)).map fun i =>
    (r.first + i * r.step, r.image + i * r.step)

end Run

namespace Table

def hexDigit (c : Char) : Nat := if c ≤ '9' then c.toNat - 48 else c.toNat - 55

def hex (digits : List Char) : Nat := digits.foldl (fun n c => 16 * n + hexDigit c) 0

def entries (table : String) : List (List Char) :=
  (Text.pieces ' ' (table.toList.map fun c => if c = '\n' then ' ' else c)).filter (!·.isEmpty)

def range (entry : List Char) : Nat × Nat :=
  match Text.splitFirst? '-' entry with
  | some (first, last) => (hex first, hex last)
  | none => (hex entry, hex entry)

def ranges (table : String) : Ranges := (entries table).map range

def run (entry : List Char) : Run :=
  let (source, image) := (Text.splitFirst? '=' entry).getD (entry, [])
  let (members, step) := (Text.splitFirst? '/' source).getD (source, ['1'])
  let (first, last) := range members
  ⟨first, last, hex step, hex image⟩

def runs (table : String) : List Run := (entries table).map run

/-- Entries such as `DF=53+53`, which map one code point to several. -/
def expansions (table : String) : List (Nat × List Nat) :=
  (entries table).map fun entry =>
    let (source, image) := (Text.splitFirst? '=' entry).getD (entry, [])
    (hex source, (Text.pieces '+' image).map hex)

end Table

end Conform.Unicode
