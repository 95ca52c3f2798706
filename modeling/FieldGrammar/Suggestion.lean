import FieldGrammar.Analysis

/-!
# Suggestions

A request says which rule is asked for values, with which query, and which part
of the text a chosen value replaces.
-/

namespace FieldGrammar

structure Request where
  rule : Rule
  query : String
  replace : Span
  context : Option Statement

namespace Request

/-- On a field, the values of its rule that could replace it. -/
def ofToken? (config : Config) (context : Option Statement) (token : Token) : Option Request := do
  let rule ← config.ruleFor? token.kind
  some { rule := rule, query := token.text, replace := token.span, context := context }

/-- Off every field, the values of the field expected next. -/
def ofPrediction (context : Option Statement) (prediction : Prediction) : Request :=
  { rule := prediction.rule, query := "", replace := prediction.span, context := context }

def ofAnalysis? (config : Config) (analysis : Analysis) : Option Request :=
  match analysis.activeToken? with
  | some token => ofToken? config analysis.activeStatement? token
  | none => analysis.prediction.map (ofPrediction analysis.activeStatement?)

def fetch (request : Request) (page pageSize : Nat) : Except LookupError (List String) :=
  request.rule.suggest request.context request.query page pageSize

end Request
end FieldGrammar
