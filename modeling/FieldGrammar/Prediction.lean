import FieldGrammar.Focus

/-!
# Prediction

The field that is expected next at the caret.  Without a statement it is the
first field of the format, and after a complete statement there is none.
-/

namespace FieldGrammar

structure Prediction where
  kind : String
  span : Span
  rule : Rule

namespace Prediction

def description (prediction : Prediction) : Option String :=
  prediction.rule.description

def next? (config : Config) (statement : Option Statement) (caret : Nat) : Option Prediction := do
  let filled := (statement.map Statement.fieldCount).getD 0
  let kind ← config.expectedAt? filled
  let rule ← config.ruleFor? kind
  some { kind := kind, span := Span.point caret, rule := rule }

end Prediction
end FieldGrammar
