import Conform.Unicode.BinaryProperty
import Conform.Unicode.Direction
import Conform.Unicode.DomainMapping
import Conform.Unicode.Joining
import Conform.Unicode.Normalization
import Conform.Url.Punycode

namespace Conform.Domain

open Unicode (Direction)

def isForbidden (c : Char) : Bool :=
  c.toNat ≤ 0x20 || c.toNat = 0x7F ||
    c ∈ ['%', '#', '/', ':', '<', '>', '?', '@', '[', '\\', ']', '^', '|']

def isAscii (c : Char) : Bool := c.toNat < 128

def isMapped (text : List Char) : Bool :=
  (text.all fun c => Unicode.DomainMapping.image? c == some [c]) &&
    Unicode.Normalization.compose text == text

/-- A label in Unicode: one that begins with `xn--` is read as Punycode, and has to hold characters
beyond ASCII. -/
def unicodeLabel? (label : List Char) : Option (List Char) :=
  match Text.stripPrefix? ['x', 'n', '-', '-'] label with
  | none => some label
  | some code =>
    match Punycode.decode? code with
    | none => none
    | some text => if isMapped text && !text.all isAscii then some text else none

def isVirama (c : Char) : Bool := Unicode.Normalization.place c.toNat = 9

def firstVisible? (text : List Char) : Option Char :=
  (text.dropWhile Unicode.Joining.transparent.hasChar).head?

/-- Whether a joiner or non-joiner may stand between the text before it, in reverse, and the text
after it. -/
def mayStand (joiner : Char) (before after : List Char) : Bool :=
  before.head?.any isVirama ||
    (joiner = '\u200c' && (firstVisible? before).any Unicode.Joining.joinsOnward.hasChar &&
      (firstVisible? after).any Unicode.Joining.joinsBack.hasChar)

/-- Whether every joiner and non-joiner of a label has an effect; `before` is what was passed, in
reverse. -/
def joinersHold : (before : List Char) → List Char → Bool
  | _, [] => true
  | before, c :: rest =>
    ((c ≠ '\u200c' && c ≠ '\u200d') || mayStand c before rest) && joinersHold (c :: before) rest

def isWellFormed (label : List Char) : Bool :=
  !label.any isForbidden && !label.head?.any Unicode.GeneralCategory.mark.hasChar &&
    joinersHold [] label

def Direction.isRightToLeft : Direction → Bool
  | .rightToLeft | .arabicLetter => true
  | _ => false

def Direction.isNeutral : Direction → Bool
  | .europeanNumber | .europeanSeparator | .commonSeparator | .europeanTerminator | .otherNeutral
  | .boundaryNeutral | .nonspacingMark => true
  | _ => false

/-- The rule for labels of a name in which some character runs from right to left. -/
def runsOneWay (label : List Char) : Bool :=
  let classes := label.map Direction.ofChar
  let last := (classes.reverse.dropWhile (· = .nonspacingMark)).head?
  match classes with
  | [] => true
  | first :: _ =>
    if Direction.isRightToLeft first then
      (classes.all fun d =>
          Direction.isRightToLeft d || Direction.isNeutral d || d = .arabicNumber) &&
        (last.any fun d =>
          Direction.isRightToLeft d || d = .europeanNumber || d = .arabicNumber) &&
        !(.europeanNumber ∈ classes && .arabicNumber ∈ classes)
    else if first = .leftToRight then
      (classes.all fun d => d = .leftToRight || Direction.isNeutral d) &&
        last.any fun d => d = .leftToRight || d = .europeanNumber
    else false

def isBidirectional (labels : List (List Char)) : Bool :=
  labels.any fun label =>
    label.any fun c =>
      let d := Direction.ofChar c
      Direction.isRightToLeft d || d = .arabicNumber

/-- The labels of a domain name; none if the name is malformed. -/
def labels? (name : List Char) : Option (List (List Char)) := do
  let mapped ← name.mapM Unicode.DomainMapping.image?
  let labels ← (Text.pieces '.' (Unicode.Normalization.compose mapped.flatten)).mapM unicodeLabel?
  if labels.all isWellFormed && (!isBidirectional labels || labels.all runsOneWay) then
    return labels
  else none

end Conform.Domain
