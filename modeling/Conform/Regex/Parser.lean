import Conform.Regex.ClassParser

namespace Conform.Regex

namespace Parser

open Scan

structure Frame where
  kind : GroupKind
  branches : List Expression
  parts : List Expression
  /-- Whether blanks count outside the group. -/
  free : Bool

/-- What was read so far: in the innermost open group, the branches that are finished and the parts
of the current one, both in reverse. -/
structure State where
  stack : List Frame
  branches : List Expression
  parts : List Expression
  /-- Whether blanks and comments between parts do not count. -/
  free : Bool
  /-- Names of groups. -/
  names : List (List Char)

namespace State

def start : State := ⟨[], [], [], false, []⟩

def push (st : State) (e : Expression) : State := { st with parts := e :: st.parts }

/-- The expression of the innermost open group as it stands. -/
def body (st : State) : Expression :=
  Expression.ofBranches (Expression.ofParts st.parts.reverse :: st.branches).reverse

def enter (st : State) (kind : GroupKind) (free : Bool) : State :=
  { st with
    stack := ⟨kind, st.branches, st.parts, st.free⟩ :: st.stack
    branches := []
    parts := []
    free := free }

def leave? (st : State) : Option State :=
  match st.stack with
  | [] => none
  | frame :: stack =>
    some
      { st with
        stack := stack
        branches := frame.branches
        parts := .group frame.kind st.body :: frame.parts
        free := frame.free }

def branch (st : State) : State :=
  { st with branches := Expression.ofParts st.parts.reverse :: st.branches, parts := [] }

def repeat? (st : State) (min : Nat) (max : Option Nat) (greedy : Bool) : Option State :=
  match st.parts with
  | last :: parts =>
    if last.isOperand then some { st with parts := .repetition min max greedy last :: parts }
    else none
  | [] => none

end State

def openGroup (st : State) (text : List Char) : Option (State × List Char) :=
  let text := skip st.free text
  match text with
  | '?' :: 'P' :: '<' :: rest => named rest
  | '?' :: '<' :: '=' :: _ => none
  | '?' :: '<' :: '!' :: _ => none
  | '?' :: '<' :: rest => named rest
  | '?' :: rest =>
    match flags false .none rest with
    | some (l, ':' :: rest) =>
      some (st.enter (.plain l) (l.apply .ignoreBlanks st.free), rest)
    | some (l, ')' :: rest) =>
      if l.on.isEmpty ∧ l.off.isEmpty then none
      else some ({ st.push (.flags l) with free := l.apply .ignoreBlanks st.free }, rest)
    | _ => none
  | text => some (st.enter .capture st.free, text)
where
  named (rest : List Char) : Option (State × List Char) :=
    match groupName rest with
    | some (name, rest) =>
      if name ∈ st.names then none
      else some ({ st.enter .capture st.free with names := name :: st.names }, rest)
    | none => none

def primitive : Primitive → Expression
  | .literal l => .literal l
  | .assertion a => .assertion a
  | .shorthand s negated => .shorthand s negated
  | .property q negated => .property q negated

def step (st : State) (c : Char) (rest : List Char) : Option (State × List Char) :=
  let pushed (e : Expression) : Option (State × List Char) := some (st.push e, rest)
  let repeated (min : Nat) (max : Option Nat) : Option (State × List Char) :=
    (st.repeat? min max (greed rest).1).map (·, (greed rest).2)
  match c with
  | '(' => openGroup st rest
  | ')' => st.leave?.map (·, rest)
  | '|' => some (st.branch, rest)
  | '[' =>
    (ClassParser.parse st.free rest).map fun ((negated, set), rest) =>
      (st.push (.bracketed negated set), rest)
  | '?' => repeated 0 (some 1)
  | '*' => repeated 0 none
  | '+' => repeated 1 none
  | '\x7b' =>
    match counts st.free rest with
    | some (((min, max), greedy), rest) => (st.repeat? min max greedy).map (·, rest)
    | none => none
  | '\\' => (escape st.free rest).map fun (p, rest) => (st.push (primitive p), rest)
  | '.' => pushed .dot
  | '^' => pushed (.assertion .startLine)
  | '$' => pushed (.assertion .endLine)
  | c => pushed (.literal ⟨c, false⟩)

def run : (fuel : Nat) → State → List Char → Option State
  | 0, _, _ => none
  | fuel + 1, st, text =>
    match skip st.free text with
    | [] => some st
    | c :: rest =>
      match step st c rest with
      | some (st, rest) => run fuel st rest
      | none => none

end Parser

namespace Expression

def nestingLimit : Nat := 250

def parse? (text : List Char) : Option Expression := do
  let st ← Parser.run (text.length + 1) .start text
  if st.stack.isEmpty ∧ st.body.depth ≤ nestingLimit then return st.body else none

end Expression

end Conform.Regex
