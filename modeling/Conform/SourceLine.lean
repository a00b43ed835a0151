namespace Conform

/-- A line of a file; lines are counted from one. -/
structure SourceLine where
  file : String
  line : Nat
  positive : 0 < line
deriving DecidableEq

namespace SourceLine

def display (s : SourceLine) : String :=
  s.file ++ ":" ++ String.ofList (Nat.toDigits 10 s.line)

end SourceLine

end Conform
