import Conform.Regex.Expression
import Conform.Unicode.CaseFolding
import Conform.Unicode.Property

namespace Conform.Regex

open Unicode (Ranges)

namespace CharClass

/-- A set together with all characters that differ from its members in case alone. -/
def foldCase (s : Ranges) : Ranges :=
  let folds :=
    (Unicode.CaseFolding.pairs.filter fun (c, fold) => s.has c || s.has fold).map (·.2)
  if folds.isEmpty then s
  else
    let folds := Ranges.normalize (folds.map fun n => (n, n))
    let members := Unicode.CaseFolding.pairs.filter fun (_, fold) => folds.has fold
    Ranges.unions [s, folds, members.map fun (c, _) => (c, c)]

def foldAsciiCase (s : Ranges) : Ranges :=
  let other (n : Nat) : Nat := if n < 0x60 then n + 32 else n - 32
  let letters := (List.range 26).flatMap fun i => [0x41 + i, 0x61 + i]
  Ranges.union s ((letters.filter s.has).map fun n => (other n, other n))

def isAscii (s : Ranges) : Bool := s.all fun (_, hi) => hi < 128

def named : AsciiClass → Ranges
  | .alnum => [(0x30, 0x39), (0x41, 0x5A), (0x61, 0x7A)]
  | .alpha => [(0x41, 0x5A), (0x61, 0x7A)]
  | .ascii => [(0, 0x7F)]
  | .blank => [(9, 9), (0x20, 0x20)]
  | .cntrl => [(0, 0x1F), (0x7F, 0x7F)]
  | .digit => [(0x30, 0x39)]
  | .graph => [(0x21, 0x7E)]
  | .lower => [(0x61, 0x7A)]
  | .print => [(0x20, 0x7E)]
  | .punct => [(0x21, 0x2F), (0x3A, 0x40), (0x5B, 0x60), (0x7B, 0x7E)]
  | .space => [(9, 13), (0x20, 0x20)]
  | .upper => [(0x41, 0x5A)]
  | .word => [(0x30, 0x39), (0x41, 0x5A), (0x5F, 0x5F), (0x61, 0x7A)]
  | .xdigit => [(0x30, 0x39), (0x41, 0x46), (0x61, 0x66)]

def word : Ranges :=
  Ranges.unions [Unicode.BinaryProperty.alphabetic, Unicode.GeneralCategory.mark,
    Unicode.GeneralCategory.union
      [Unicode.GeneralCategory.decimalNumber, Unicode.GeneralCategory.connectorPunctuation,
        Unicode.BinaryProperty.joinControl]]

def shorthand (unicode : Bool) : Shorthand → Ranges
  | .digit =>
    if unicode then Unicode.GeneralCategory.union [Unicode.GeneralCategory.decimalNumber]
    else named .digit
  | .space =>
    if unicode then Unicode.GeneralCategory.union [Unicode.BinaryProperty.whiteSpace]
    else named .space
  | .word => if unicode then word else named .word

structure Mode where
  unicode : Bool
  foldsCase : Bool

namespace Mode

/-- A set in this mode; without Unicode none that leaves ASCII. -/
def confine (m : Mode) (s : Ranges) : Option Ranges :=
  if m.unicode || isAscii s then some s else none

def fold (m : Mode) (s : Ranges) : Ranges :=
  if m.foldsCase then if m.unicode then foldCase s else foldAsciiCase s else s

def negate (negated : Bool) (s : Ranges) : Ranges := if negated then s.complement else s

def foldAndNegate (m : Mode) (negated : Bool) (s : Ranges) : Option Ranges :=
  m.confine (negate negated (m.fold (Ranges.normalize s)))

def shorthandSet (m : Mode) (s : Shorthand) (negated : Bool) : Option Ranges :=
  m.confine (negate negated (shorthand m.unicode s))

def propertySet (m : Mode) (q : PropertyQuery) (negated : Bool) : Option Ranges :=
  if m.unicode then
    let found :=
      match q with
      | .name name => Unicode.Property.named? name
      | .value property value => Unicode.Property.valued? property value
    found.bind (m.foldAndNegate negated)
  else none

def literalCode (m : Mode) (l : Literal) : Option Nat :=
  if m.unicode || l.char.toNat < 128 then some l.char.toNat else none

def combine (m : Mode) (op : SetOperation) (left right : Ranges) : Ranges :=
  let left := m.fold left
  let right := m.fold right
  match op with
  | .intersection => Ranges.intersection left right
  | .difference => Ranges.difference left right
  | .symmetricDifference => Ranges.symmetricDifference left right

mutual

/-- The set that the inside of a bracketed class stands for, before case and negation. -/
def classSet (m : Mode) : ClassSet → Option Ranges
  | .empty => some []
  | .literal l => do
    let n ← m.literalCode l
    return [(n, n)]
  | .range first last => do return [(← m.literalCode first, ← m.literalCode last)]
  | .ascii name negated => m.foldAndNegate negated (named name)
  | .shorthand s negated => m.shorthandSet s negated
  | .property q negated => m.propertySet q negated
  | .bracketed negated set => (classSet m set).bind (m.foldAndNegate negated)
  | .union items => classItems m items
  | .combine op left right => do
    let left := Ranges.normalize (← classSet m left)
    return m.combine op left (Ranges.normalize (← classSet m right))

def classItems (m : Mode) : List ClassSet → Option Ranges
  | [] => some []
  | item :: rest => do return (← classSet m item) ++ (← classItems m rest)

end

def bracketed (m : Mode) (negated : Bool) (set : ClassSet) : Option Ranges :=
  (m.classSet set).bind (m.foldAndNegate negated)

end Mode

end CharClass

end Conform.Regex
