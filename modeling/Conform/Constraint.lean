import Conform.Finding
import Conform.KeyPattern
import Conform.Rule

namespace Conform

structure Constraint where
  pattern : KeyPattern
  rule : Rule
  expectation : Value
  source : SourceLine

namespace Constraint

def misconfiguration? (c : Constraint) : Option Finding :=
  if c.rule.accepts c.expectation then none
  else some (.misconfigured c.rule.name c.expectation c.source)

/-- Whether a value is left alone: null or blank text that the rule passes over, or a value that the
rule does not support. -/
def skips (c : Constraint) (value : Value) : Bool :=
  (value.isNull && c.rule.skipsNull) || (value.isBlank && c.rule.skipsBlank) ||
    !c.rule.supports c.expectation value

/-- The violation of a value, given that the expectation is accepted. -/
def checkValue (c : Constraint) (config : Config) (key : String) (value : Value) : Option Finding :=
  if c.skips value || c.rule.check c.expectation ⟨config, key, value⟩ then none
  else some (.violated key value c.rule.name c.expectation c.source)

/-- The findings of a constraint: its misconfiguration alone, or its violations in the order of the
keys. -/
def evaluate (c : Constraint) (config : Config) : List Finding :=
  match c.misconfiguration? with
  | some finding => [finding]
  | none => (c.pattern.targets config).filterMap fun (key, value) => c.checkValue config key value

end Constraint

end Conform
