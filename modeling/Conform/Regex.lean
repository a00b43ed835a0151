import Conform.Regex.Match
import Conform.Regex.Size

namespace Conform

structure Regex where
  pattern : Regex.Pattern

namespace Regex

def parse? (text : List Char) : Option Pattern := do
  let e ← Expression.parse? text
  let (p, _) ← e.pattern? .default
  return p

/-- Reads a regular expression; none if it is malformed or its automata grow too large. -/
def compile? (text : String) : Option Regex := do
  let p ← parse? text.toList
  if Automaton.fits p then return ⟨p⟩ else none

def isMatch (r : Regex) (text : String) : Bool := r.pattern.isMatch text.toList

end Regex

end Conform
