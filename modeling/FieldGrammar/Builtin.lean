import FieldGrammar.Config

/-!
# The built-in grammar

Statements of the form identifier, comparison, value.  The patterns are given
with the expressions they are read as.
-/

namespace FieldGrammar
namespace Builtin

open Pattern

def identifierKind : String := "identifier"

def comparisonKind : String := "comparison"

def valueKind : String := "value"

/-!
# Identifiers

A letter at the start of the text that is left, then letters, digits and low
lines.
-/

def letter : CharSet :=
  .union (.range 'a' 'z') (.range 'A' 'Z')

def identifierPart : CharSet :=
  .union (.range 'a' 'z') (.union (.range 'A' 'Z') (.union (.range '0' '9') (.range '_' '_')))

def identifierPattern : Pattern :=
  { text := "^[a-zA-Z]+[a-zA-Z0-9_]*"
    expr :=
      .seq (.look .textStart)
        (.seq (.times (.read letter) 1 none true) (.times (.read identifierPart) 0 none true)) }

theorem ofText?_identifierPattern :
    Pattern.ofText? identifierPattern.text = some identifierPattern := by
  decide

/-!
# Comparisons

The two-character operators come first, so that they are preferred.
-/

def symbol (c : Char) : Expr :=
  .read (.range c c)

def comparisonPattern : Pattern :=
  { text := "(<=|>=|=|<|>)"
    expr :=
      .choice (.seq (symbol '<') (symbol '='))
        (.choice (.seq (symbol '>') (symbol '='))
          (.choice (symbol '=') (.choice (symbol '<') (symbol '>')))) }

theorem ofText?_comparisonPattern :
    Pattern.ofText? comparisonPattern.text = some comparisonPattern := by
  decide

/-!
# Values

A number, or any text between double quotes.
-/

def valuePattern : Pattern :=
  { text := "([0-9]+|\"[^\"]*\")"
    expr :=
      .choice (.times (.read (.range '0' '9')) 1 none true)
        (.seq (symbol '"')
          (.seq (.times (.read (.compl (.range '"' '"'))) 0 none true) (symbol '"'))) }

theorem ofText?_valuePattern :
    Pattern.ofText? valuePattern.text = some valuePattern := by
  decide

/-!
# Rules and configuration
-/

def identifierRule : Rule :=
  { name := identifierKind
    pattern := identifierPattern
    description := some "Name of the field to compare"
    source := some (.numbered "foo" 100) }

def comparisonRule : Rule :=
  { name := comparisonKind
    pattern := comparisonPattern
    description := some "Comparison operator"
    source := some (.listed ["=", "<", ">", "<=", ">="]) }

def valueRule : Rule :=
  { name := valueKind
    pattern := valuePattern
    description := some "Number or double-quoted string"
    source := some (.quoted 100) }

def rules : List Rule :=
  [identifierRule, comparisonRule, valueRule]

def format : List String :=
  [identifierKind, comparisonKind, valueKind]

theorem firstFault?_builtin :
    Config.firstFault? format rules Token.unknownKind = none := by
  decide

def config : Config :=
  { format := format
    rules := rules
    defaultKind := Token.unknownKind
    wellFormed := Config.wellFormed_of_firstFault? firstFault?_builtin }

end Builtin
end FieldGrammar
