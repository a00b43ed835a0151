import Conform.Regex.Pattern

/-!
Whether a pattern matches in a text. A pattern is first laid over the text: sets of characters and
conditions become sets of places. Then it takes the set of places where a match can begin to the set
of places where one can end.
-/

namespace Conform.Regex

open Unicode (Ranges)

/-- A set of places between the characters of a text: place `i` is in it if bit `i` is set. -/
abbrev Places := Nat

namespace Places

def upTo (last : Nat) (p : Nat → Bool) : Places :=
  (List.range (last + 1)).foldl (fun m i => if p i then m ||| 1 <<< i else m) 0

def union (a b : Places) : Places := a ||| b

def intersection (a b : Places) : Places := a &&& b

def difference (a b : Places) : Places := (a ||| b) ^^^ b

def onward (a : Places) : Places := a <<< 1

end Places

namespace Look

def isWord (unicode : Bool) (c : Char) : Bool :=
  if unicode then CharClass.word.hasChar c else (CharClass.named .word).hasChar c

def holds (before after : Option Char) : Look → Bool
  | start => before.isNone
  | «end» => after.isNone
  | lineStart => before.all (· = '\n')
  | lineEnd => after.all (· = '\n')
  | crlfLineStart => before.all fun c => c = '\n' || (c = '\r' && after ≠ some '\n')
  | crlfLineEnd => after.all fun c => c = '\r' || (c = '\n' && before ≠ some '\r')
  | wordBoundary u => before.any (isWord u) != after.any (isWord u)
  | notWordBoundary u => before.any (isWord u) == after.any (isWord u)
  | wordStart u => !before.any (isWord u) && after.any (isWord u)
  | wordEnd u => before.any (isWord u) && !after.any (isWord u)
  | wordStartHalf u => !before.any (isWord u)
  | wordEndHalf u => !after.any (isWord u)

end Look

/-- A pattern laid over a text. -/
inductive Route where
  /-- Stays at a place of the set. -/
  | stay (places : Places)
  /-- Goes on by one character from a place of the set. -/
  | step (places : Places)
  | repetition (min : Nat) (max : Option Nat) (sub : Route)
  | concat (parts : List Route)
  | alternation (branches : List Route)

namespace Route

def times (f : Places → Places) : Nat → Places → Places
  | 0, m => m
  | n + 1, m =>
    let next := f m
    if next = m then m else times f n next

/-- The places reached by moving on a number of times at most, given those reached so far and those
reached last. -/
def closure (f : Places → Places) : (limit : Nat) → (reached latest : Places) → Places
  | 0, reached, _ => reached
  | limit + 1, reached, latest =>
    let new := Places.difference (f latest) reached
    if new = 0 then reached else closure f limit (Places.union reached new) new

/-- Moves a set of places on between `min` and `max` times. Without a bound as many times are enough
as the text has places. -/
def iterate (places : Nat) (min : Nat) (max : Option Nat) (f : Places → Places) (m : Places) :
    Places :=
  let least := times f min m
  let limit :=
    match max with
    | some max => Nat.min (max - min) places
    | none => places
  closure f limit least least

mutual

/-- The places where the route can end if it begins at one of the given places; `places` is their
number in the text. -/
def ends (places : Nat) : Route → Places → Places
  | stay here, m => m.intersection here
  | step here, m => (m.intersection here).onward
  | repetition min max sub, m => iterate places min max (sub.ends places) m
  | concat parts, m => endsAll places parts m
  | alternation branches, m => endsAny places branches m

def endsAll (places : Nat) : List Route → Places → Places
  | [], m => m
  | r :: rest, m => endsAll places rest (r.ends places m)

def endsAny (places : Nat) : List Route → Places → Places
  | [], _ => 0
  | r :: rest, m => (r.ends places m).union (endsAny places rest m)

end

end Route

namespace Pattern

def charBefore? (text : Array Char) (i : Nat) : Option Char :=
  if i = 0 then none else text[i - 1]?

mutual

def laidOver (text : Array Char) : Pattern → Route
  | empty => .stay (Places.upTo text.size fun _ => true)
  | chars set => .step (Places.upTo text.size fun i => text[i]?.any set.hasChar)
  | look l =>
    .stay (Places.upTo text.size fun i => l.holds (charBefore? text i) text[i]?)
  | capture sub => sub.laidOver text
  | repetition min max _ sub => .repetition min max (sub.laidOver text)
  | concat parts => .concat (allLaidOver text parts)
  | alternation branches => .alternation (allLaidOver text branches)

def allLaidOver (text : Array Char) : List Pattern → List Route
  | [] => []
  | p :: rest => p.laidOver text :: allLaidOver text rest

end

def isMatch (p : Pattern) (text : List Char) : Bool :=
  let text := text.toArray
  let all := Places.upTo text.size fun _ => true
  (p.laidOver text).ends (text.size + 1) all != 0

end Pattern

end Conform.Regex
