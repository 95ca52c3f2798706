import FieldGrammar.Prediction

/-!
# Analysis of a text

All that is known about a text with a caret in it: its statements, the focus and
the field expected next.
-/

namespace FieldGrammar

structure Analysis where
  statements : List Statement
  caret : Nat
  focus : Option Focus
  prediction : Option Prediction

namespace Analysis

def statementAt? (statements : List Statement) (focus : Option Focus) : Option Statement := do
  let focus ← focus
  statements[focus.statement]?

def activeStatement? (analysis : Analysis) : Option Statement :=
  statementAt? analysis.statements analysis.focus

def activeToken? (analysis : Analysis) : Option Token := do
  let focus ← analysis.focus
  let statement ← analysis.statements[focus.statement]?
  let token ← focus.token
  statement.tokens[token]?

def hasErrors (analysis : Analysis) : Bool :=
  analysis.statements.any Statement.hasError

def tokens (analysis : Analysis) : List Token :=
  analysis.statements.flatMap Statement.tokens

end Analysis

namespace Config

def analyze (config : Config) (text : String) (caret : Nat) : Analysis :=
  let statements := config.parse text
  let focus := Focus.resolve config statements caret
  { statements := statements
    caret := caret
    focus := focus
    prediction := Prediction.next? config (Analysis.statementAt? statements focus) caret }

end Config
end FieldGrammar
