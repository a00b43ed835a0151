import Conform.Constraint
import Conform.Text.Sorted

namespace Conform

inductive RuleReference where
  | named (name : String)
  | given (rule : Rule)

structure Declaration where
  key : String
  rule : RuleReference
  expectation : Value
  source : SourceLine

namespace Declaration

/-- The constraint that a declaration makes, or the finding that it makes instead. An unknown rule
is found before a malformed key. -/
def resolve (d : Declaration) : Except Finding Constraint :=
  let bind (rule : Rule) : Except Finding Constraint :=
    match KeyPattern.parse d.key with
    | .ok pattern => .ok ⟨pattern, rule, d.expectation, d.source⟩
    | .error reason => .error (.invalidPattern d.key reason.message d.source)
  match d.rule with
  | .given rule => bind rule
  | .named name =>
    match Rule.ofName? name with
    | some rule => bind rule
    | none => .error (.unknownRule name d.key d.source)

def constraint? (d : Declaration) : Option Constraint :=
  match d.resolve with
  | .ok c => some c
  | .error _ => none

def finding? (d : Declaration) : Option Finding :=
  match d.resolve with
  | .ok _ => none
  | .error finding => some finding

end Declaration

structure Specification where
  constraints : List Constraint
  /-- Findings about the declarations themselves. -/
  findings : List Finding

namespace Specification

def empty : Specification := ⟨[], []⟩

def ofDeclarations (declarations : List Declaration) : Specification where
  constraints := declarations.filterMap Declaration.constraint?
  findings := declarations.filterMap Declaration.finding?

def append (s t : Specification) : Specification :=
  ⟨s.constraints ++ t.constraints, s.findings ++ t.findings⟩

/-- The specifications of several sources as one, in the order of the sources. -/
def aggregate (parts : List Specification) : Specification := parts.foldl append empty

def covers (s : Specification) (key : String) : Bool :=
  s.constraints.any fun c => c.pattern.matchesKey key

def unspecified (s : Specification) (c : Config) : List String :=
  Text.sorted (c.keys.filter fun key => !s.covers key)

end Specification

end Conform
