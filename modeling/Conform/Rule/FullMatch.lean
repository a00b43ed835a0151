import Conform.Regex

namespace Conform.FullMatch

def anchored (pattern : String) : String := "^(?:" ++ pattern ++ ")$"

def compile? (pattern : String) : Option Regex := do
  let _ ← Regex.compile? pattern
  Regex.compile? (anchored pattern)

def test (pattern text : String) : Bool :=
  match compile? pattern with
  | some regex => regex.isMatch text
  | none => false

/-- A tester that remembers the last well-formed pattern. -/
structure Tester where
  last? : Option (String × Regex)

namespace Tester

def fresh : Tester := ⟨none⟩

def test (t : Tester) (pattern text : String) : Bool × Tester :=
  match t.last? with
  | some (source, regex) =>
    if source = pattern then (regex.isMatch text, t) else anew
  | none => anew
where
  anew : Bool × Tester :=
    match compile? pattern with
    | some regex => (regex.isMatch text, ⟨some (pattern, regex)⟩)
    | none => (false, t)

end Tester

end Conform.FullMatch
