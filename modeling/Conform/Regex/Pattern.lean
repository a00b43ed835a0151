import Conform.Regex.CharClass
import Conform.Regex.Parser

namespace Conform.Regex

open Unicode (Ranges)

inductive Look where
  | start
  | «end»
  | lineStart
  | lineEnd
  | crlfLineStart
  | crlfLineEnd
  | wordBoundary (unicode : Bool)
  | notWordBoundary (unicode : Bool)
  | wordStart (unicode : Bool)
  | wordEnd (unicode : Bool)
  | wordStartHalf (unicode : Bool)
  | wordEndHalf (unicode : Bool)
deriving DecidableEq

def Look.isUnicodeWord : Look → Bool
  | wordBoundary unicode | notWordBoundary unicode => unicode
  | wordStart unicode | wordEnd unicode => unicode
  | wordStartHalf unicode | wordEndHalf unicode => unicode
  | _ => false

inductive Pattern where
  | empty
  /-- One character of a set. -/
  | chars (set : Ranges)
  | look (l : Look)
  | capture (sub : Pattern)
  | repetition (min : Nat) (max : Option Nat) (greedy : Bool) (sub : Pattern)
  | concat (parts : List Pattern)
  | alternation (branches : List Pattern)

instance : Inhabited Pattern := ⟨.empty⟩

namespace Pattern

mutual

/-- Matches nothing but the empty text, if anything. -/
def isEmptyOnly : Pattern → Bool
  | empty | look _ => true
  | chars _ => false
  | capture sub => sub.isEmptyOnly
  | repetition _ _ _ sub => sub.isEmptyOnly
  | concat parts => areEmptyOnly parts
  | alternation branches => areEmptyOnly branches

def areEmptyOnly : List Pattern → Bool
  | [] => true
  | p :: rest => p.isEmptyOnly && areEmptyOnly rest

end

mutual

def consumes : Pattern → Bool
  | empty | look _ => false
  | chars set => !set.isEmpty
  | capture sub => sub.consumes
  | repetition min _ _ sub => 0 < min && sub.consumes
  | concat parts => someConsumes parts
  | alternation branches => allConsume branches

def someConsumes : List Pattern → Bool
  | [] => false
  | p :: rest => p.consumes || someConsumes rest

def allConsume : List Pattern → Bool
  | [] => true
  | p :: rest => p.consumes && allConsume rest

end

mutual

def anyLook (p : Look → Bool) : Pattern → Bool
  | empty | chars _ => false
  | look l => p l
  | capture sub => sub.anyLook p
  | repetition _ _ _ sub => sub.anyLook p
  | concat parts => anyLookOf p parts
  | alternation branches => anyLookOf p branches

def anyLookOf (p : Look → Bool) : List Pattern → Bool
  | [] => false
  | sub :: rest => sub.anyLook p || anyLookOf p rest

end

mutual

/-- Patterns that are built the same way. Two groups that capture are never the same. -/
def same : Pattern → Pattern → Bool
  | empty, empty => true
  | chars set, chars set' => set = set'
  | look l, look l' => l = l'
  | repetition min max greedy sub, repetition min' max' greedy' sub' =>
    (min, max, greedy) = (min', max', greedy') && sub.same sub'
  | concat parts, concat parts' => areSame parts parts'
  | alternation branches, alternation branches' => areSame branches branches'
  | _, _ => false

def areSame : List Pattern → List Pattern → Bool
  | [], [] => true
  | p :: rest, q :: rest' => p.same q && areSame rest rest'
  | _, _ => false

end

def set? : Pattern → Option Ranges
  | chars set => some set
  | _ => none

def isLiteral : Pattern → Bool
  | chars [(lo, hi)] => lo = hi
  | _ => false

/-- A repetition in simple form: of what matches nothing but the empty text once is enough. -/
def repeated (min : Nat) (max : Option Nat) (greedy : Bool) (sub : Pattern) : Pattern :=
  let (min, max) :=
    if sub.isEmptyOnly then (Nat.min min 1, some ((max.map (Nat.min · 1)).getD 1)) else (min, max)
  if min = 0 ∧ max = some 0 then empty
  else if min = 1 ∧ max = some 1 then sub
  else repetition min max greedy sub

/-- A sequence in simple form, without empty parts and without sequences inside. -/
def sequence (parts : List Pattern) : Pattern :=
  let flat := parts.flatMap fun
    | empty => []
    | concat inner => inner
    | p => [p]
  match flat with
  | [] => empty
  | [p] => p
  | flat => concat flat

def choiceSet? (branches : List Pattern) : Option Ranges :=
  if branches.all isLiteral || !branches.any isLiteral then (branches.mapM set?).map Ranges.unions
  else none

/-- A choice without choices inside. -/
def flatChoice (branches : List Pattern) : Pattern :=
  let flat := branches.flatMap fun
    | alternation inner => inner
    | p => [p]
  match flat with
  | [p] => p
  | flat =>
    match choiceSet? flat with
    | some set => chars set
    | none => alternation flat

/-- The parts of a sequence, where a literal is one part; none if all of it is a literal. -/
def atoms : Pattern → List (List Pattern)
  | concat parts =>
    match parts.splitBy fun p q => p.isLiteral && q.isLiteral with
    | [_] => []
    | parts => parts
  | _ => []

def commonStart : List (List Pattern) → List (List Pattern) → List (List Pattern)
  | p :: rest, q :: rest' => if areSame p q then p :: commonStart rest rest' else []
  | _, _ => []

/-- The parts with which all branches begin. -/
def beginning (branches : List Pattern) : List (List Pattern) :=
  match branches.map atoms with
  | [] => []
  | first :: rest => rest.foldl commonStart first

def behind (count : Nat) (p : Pattern) : Pattern := sequence (p.atoms.drop count).flatten

/-- A choice in simple form. What all branches begin with stands before the choice. -/
def choice (branches : List Pattern) : Pattern :=
  match flatChoice branches with
  | alternation flat =>
    match beginning flat with
    | [] => alternation flat
    | parts => sequence (parts.flatten ++ [flatChoice (flat.map (behind parts.length))])
  | p => p

end Pattern

structure Mode where
  foldsCase : Bool
  multiLine : Bool
  dotAll : Bool
  swapsGreed : Bool
  crlf : Bool
  unicode : Bool

namespace Mode

def default : Mode := ⟨false, false, false, false, false, true⟩

def apply (m : Mode) (l : FlagList) : Mode where
  foldsCase := l.apply .caseInsensitive m.foldsCase
  multiLine := l.apply .multiLine m.multiLine
  dotAll := l.apply .dotAll m.dotAll
  swapsGreed := l.apply .swapGreed m.swapsGreed
  crlf := l.apply .crlf m.crlf
  unicode := l.apply .unicode m.unicode

def classes (m : Mode) : CharClass.Mode := ⟨m.unicode, m.foldsCase⟩

/-- A literal by two hexadecimal digits is a byte in the mode without Unicode, and a byte beyond
ASCII is no text. -/
def literal (m : Mode) (l : Literal) : Option Pattern :=
  let n := l.char.toNat
  if !m.unicode && l.byte && 128 ≤ n then none
  else some (.chars (m.classes.fold [(n, n)]))

def dot (m : Mode) : Option Pattern :=
  if !m.unicode then none
  else if m.dotAll then some (.chars (Ranges.complement []))
  else if m.crlf then some (.chars (Ranges.complement [(10, 10), (13, 13)]))
  else some (.chars (Ranges.complement [(10, 10)]))

def look (m : Mode) : Assertion → Look
  | .startLine => if m.multiLine then if m.crlf then .crlfLineStart else .lineStart else .start
  | .endLine => if m.multiLine then if m.crlf then .crlfLineEnd else .lineEnd else .end
  | .startText => .start
  | .endText => .end
  | .wordBoundary => .wordBoundary m.unicode
  | .notWordBoundary => .notWordBoundary m.unicode
  | .wordStart => .wordStart m.unicode
  | .wordEnd => .wordEnd m.unicode
  | .wordStartHalf => .wordStartHalf m.unicode
  | .wordEndHalf => .wordEndHalf m.unicode

end Mode

namespace Expression

mutual

/-- The pattern of an expression, and the flags that hold after it. -/
def pattern? : Mode → Expression → Option (Pattern × Mode)
  | m, .empty => some (.empty, m)
  | m, .flags l => some (.empty, m.apply l)
  | m, .literal l => (m.literal l).map (·, m)
  | m, .dot => m.dot.map (·, m)
  | m, .assertion a => some (.look (m.look a), m)
  | m, .shorthand s negated => (m.classes.shorthandSet s negated).map (.chars ·, m)
  | m, .property q negated => (m.classes.propertySet q negated).map (.chars ·, m)
  | m, .bracketed negated set => (m.classes.bracketed negated set).map (.chars ·, m)
  | m, .repetition min max greedy sub =>
    (pattern? m sub).map fun (p, m) => (.repeated min max (greedy != m.swapsGreed) p, m)
  | m, .group .capture sub => (pattern? m sub).map fun (p, _) => (.capture p, m)
  | m, .group (.plain l) sub => (pattern? (m.apply l) sub).map fun (p, _) => (p, m)
  | m, .alternation branches => (patterns? m branches).map fun (ps, m) => (.choice ps, m)
  | m, .concat parts => (patterns? m parts).map fun (ps, m) => (.sequence ps, m)

def patterns? : Mode → List Expression → Option (List Pattern × Mode)
  | m, [] => some ([], m)
  | m, e :: rest =>
    match pattern? m e with
    | none => none
    | some (p, m) => (patterns? m rest).map fun (ps, m) => (p :: ps, m)

end

end Expression

end Conform.Regex
