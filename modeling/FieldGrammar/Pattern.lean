import FieldGrammar.Pattern.Match
import FieldGrammar.Pattern.Reader

/-!
# Patterns

A pattern is kept with the text it was read from.  A dialect says which texts are
patterns and what they match.
-/

namespace FieldGrammar

structure Pattern where
  text : String
  expr : Pattern.Expr
deriving DecidableEq, Repr

namespace Pattern

abbrev Dialect : Type :=
  List Char -> Option Expr

/--
The dialect in which patterns are read unless another one is given.  It has no escapes
for Unicode properties, and it bounds a pattern by its steps, whatever space the sets
take that they read.
-/
def Dialect.standard : Dialect :=
  Reader.readExpr?

def ofText? (text : String) (dialect : Dialect := Dialect.standard) : Option Pattern := do
  let expr ← dialect text.toList
  some { text := text, expr := expr }

end Pattern
end FieldGrammar
