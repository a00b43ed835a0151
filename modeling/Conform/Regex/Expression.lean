namespace Conform.Regex

inductive Flag where
  | caseInsensitive
  | multiLine
  | dotAll
  | swapGreed
  | unicode
  | crlf
  | ignoreBlanks
deriving DecidableEq

structure FlagList where
  on : List Flag
  off : List Flag
deriving DecidableEq

namespace FlagList

def none : FlagList := ⟨[], []⟩

def state? (l : FlagList) (flag : Flag) : Option Bool :=
  if flag ∈ l.on then some true else if flag ∈ l.off then some false else Option.none

def apply (l : FlagList) (flag : Flag) (before : Bool) : Bool := (l.state? flag).getD before

end FlagList

inductive Shorthand where
  | digit
  | space
  | word
deriving DecidableEq

inductive AsciiClass where
  | alnum | alpha | ascii | blank | cntrl | digit | graph | lower | print | punct | space | upper
  | word | xdigit
deriving DecidableEq

inductive PropertyQuery where
  | name (name : String)
  | value (property value : String)
deriving DecidableEq

/-- A literal character; `byte` marks one written by two hexadecimal digits. -/
structure Literal where
  char : Char
  byte : Bool
deriving DecidableEq

inductive SetOperation where
  | intersection
  | difference
  | symmetricDifference
deriving DecidableEq

inductive ClassSet where
  | empty
  | literal (l : Literal)
  | range (first last : Literal)
  | ascii (name : AsciiClass) (negated : Bool)
  | shorthand (s : Shorthand) (negated : Bool)
  | property (q : PropertyQuery) (negated : Bool)
  | bracketed (negated : Bool) (set : ClassSet)
  | union (items : List ClassSet)
  | combine (op : SetOperation) (left right : ClassSet)

inductive Assertion where
  | startLine
  | endLine
  | startText
  | endText
  | wordBoundary
  | notWordBoundary
  | wordStart
  | wordEnd
  | wordStartHalf
  | wordEndHalf
deriving DecidableEq

inductive GroupKind where
  | capture
  | plain (flags : FlagList)
deriving DecidableEq

inductive Expression where
  | empty
  /-- Flags for the rest of the enclosing group. -/
  | flags (flags : FlagList)
  | literal (l : Literal)
  | dot
  | assertion (a : Assertion)
  | shorthand (s : Shorthand) (negated : Bool)
  | property (q : PropertyQuery) (negated : Bool)
  | bracketed (negated : Bool) (set : ClassSet)
  | repetition (min : Nat) (max : Option Nat) (greedy : Bool) (sub : Expression)
  | group (kind : GroupKind) (sub : Expression)
  | alternation (branches : List Expression)
  | concat (parts : List Expression)

namespace ClassSet

def ofItems : List ClassSet → ClassSet
  | [] => empty
  | [item] => item
  | items => union items

mutual

def depth : ClassSet → Nat
  | bracketed _ set => set.depth + 1
  | union items => depthItems items + 1
  | combine _ left right => max left.depth right.depth + 1
  | _ => 0

def depthItems : List ClassSet → Nat
  | [] => 0
  | item :: rest => max item.depth (depthItems rest)

end

end ClassSet

namespace Expression

def ofParts : List Expression → Expression
  | [] => empty
  | [part] => part
  | parts => concat parts

def ofBranches : List Expression → Expression
  | [] => empty
  | [branch] => branch
  | branches => alternation branches

def isOperand : Expression → Bool
  | empty | flags _ => false
  | _ => true

mutual

def depth : Expression → Nat
  | bracketed _ set => set.depth + 1
  | repetition _ _ _ sub => sub.depth + 1
  | group _ sub => sub.depth + 1
  | alternation branches => depthAll branches + 1
  | concat parts => depthAll parts + 1
  | _ => 0

def depthAll : List Expression → Nat
  | [] => 0
  | e :: rest => max e.depth (depthAll rest)

end

end Expression

end Conform.Regex
