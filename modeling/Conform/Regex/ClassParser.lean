import Conform.Regex.Scan

namespace Conform.Regex.ClassParser

open Scan

inductive Frame where
  /-- An open bracket, with the items before it in reverse. -/
  | bracket (outer : List ClassSet) (negated : Bool)
  | operand (op : SetOperation) (left : ClassSet)

def asciiClass? (name : List Char) : Option AsciiClass :=
  match String.ofList name with
  | "alnum" => some .alnum
  | "alpha" => some .alpha
  | "ascii" => some .ascii
  | "blank" => some .blank
  | "cntrl" => some .cntrl
  | "digit" => some .digit
  | "graph" => some .graph
  | "lower" => some .lower
  | "print" => some .print
  | "punct" => some .punct
  | "space" => some .space
  | "upper" => some .upper
  | "word" => some .word
  | "xdigit" => some .xdigit
  | _ => none

def named? (text : List Char) : Option (ClassSet × List Char) := do
  let text ← Text.stripPrefix? [':'] text
  let (negated, text) :=
    match text with
    | '^' :: rest => (true, rest)
    | _ => (false, text)
  let (name, text) ← Text.splitFirst? ':' text
  let text ← Text.stripPrefix? [']'] text
  return (.ascii (← asciiClass? name) negated, text)

def leadingHyphens (free : Bool) : (fuel : Nat) → List ClassSet → List Char →
    List ClassSet × List Char
  | 0, items, text => (items, text)
  | fuel + 1, items, text =>
    match text with
    | '-' :: rest => leadingHyphens free fuel (.literal ⟨'-', false⟩ :: items) (skip free rest)
    | _ => (items, text)

/-- Reads the start of a class after its opening bracket: a mark of negation, hyphens, and a closing
bracket that stands for itself. Gives the items in reverse. -/
def opening (free : Bool) (text : List Char) : Option ((Bool × List ClassSet) × List Char) :=
  let text := skip free text
  let (negated, text) :=
    match text with
    | '^' :: rest => (true, skip free rest)
    | _ => (false, text)
  let (items, text) := leadingHyphens free text.length [] text
  match items, text with
  | _, [] => none
  | [], ']' :: rest =>
    match skip free rest with
    | [] => none
    | rest => some ((negated, [.literal ⟨']', false⟩]), rest)
  | items, text => some ((negated, items), text)

def item (free : Bool) : List Char → Option (Primitive × List Char)
  | [] => none
  | c :: rest => if c = '\\' then escape free rest else some (.literal ⟨c, false⟩, rest)

def Primitive.set? : Primitive → Option ClassSet
  | .literal l => some (.literal l)
  | .shorthand s negated => some (.shorthand s negated)
  | .property q negated => some (.property q negated)
  | .assertion _ => none

def Primitive.literal? : Primitive → Option Literal
  | .literal l => some l
  | _ => none

def rangeOrItem (free : Bool) (text : List Char) : Option (ClassSet × List Char) := do
  let (first, text) ← item free text
  let text := skip free text
  let isRange := text.head? = some '-' ∧ peek free text ≠ some ']' ∧ peek free text ≠ some '-'
  if text.isEmpty then none
  else if ¬isRange then return (← Primitive.set? first, text)
  else
    let (last, text) ← item free (skip free text.tail)
    let first ← Primitive.literal? first
    let last ← Primitive.literal? last
    if first.char ≤ last.char then return (.range first last, text) else none

def closeOperand (stack : List Frame) (items : List ClassSet) : ClassSet × List Frame :=
  let set := ClassSet.ofItems items.reverse
  match stack with
  | .operand op left :: stack => (.combine op left set, stack)
  | _ => (set, stack)

def operation? : List Char → Option (SetOperation × List Char)
  | '&' :: '&' :: rest => some (.intersection, rest)
  | '-' :: '-' :: rest => some (.difference, rest)
  | '~' :: '~' :: rest => some (.symmetricDifference, rest)
  | _ => none

/-- Reads a class up to the bracket that closes its outermost bracket. -/
def run (free : Bool) : (fuel : Nat) → List Frame → List ClassSet → List Char →
    Option ((Bool × ClassSet) × List Char)
  | 0, _, _, _ => none
  | fuel + 1, stack, items, text =>
    match skip free text with
    | [] => none
    | '[' :: rest =>
      match named? rest with
      | some (set, rest) => run free fuel stack (set :: items) rest
      | none =>
        match opening free rest with
        | none => none
        | some ((negated, inner), rest) =>
          run free fuel (.bracket items negated :: stack) inner rest
    | ']' :: rest =>
      match closeOperand stack items with
      | (set, [.bracket _ negated]) => some ((negated, set), rest)
      | (set, .bracket outer negated :: stack) =>
        run free fuel stack (.bracketed negated set :: outer) rest
      | _ => none
    | text =>
      match operation? text with
      | some (op, rest) =>
        let (set, stack) := closeOperand stack items
        run free fuel (.operand op set :: stack) [] rest
      | none =>
        match rangeOrItem free text with
        | none => none
        | some (set, rest) => run free fuel stack (set :: items) rest

def parse (free : Bool) (text : List Char) : Option ((Bool × ClassSet) × List Char) :=
  match opening free text with
  | none => none
  | some ((negated, items), rest) => run free (rest.length + 1) [.bracket [] negated] items rest

end Conform.Regex.ClassParser
