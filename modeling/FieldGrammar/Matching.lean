import FieldGrammar.Config
import FieldGrammar.Scan

/-!
# Grouping tokens into statements

Tokens fill the fields of the format one after the other.  A token of another
kind than the expected one is kept and flagged, and the same field is offered to
the tokens after it.  A statement is closed when a token follows its last field.
-/

namespace FieldGrammar
namespace Matching

/-- The statement that is being filled, with the number of its fields so far. -/
structure Open where
  statement : Statement
  filled : Nat

namespace Open

def start : Open :=
  { statement := Statement.empty, filled := 0 }

/-- Adds a token at the end. -/
def append (config : Config) (current : Open) (token : Token) (error : Option Mismatch)
    (filled : Nat) : Open :=
  { statement :=
      { tokens := current.statement.tokens ++ [token]
        error := error
        incomplete := filled < config.fieldCount }
    filled := filled }

def push (config : Config) (current : Open) (token : Token) : Open :=
  let expected := (config.expectedAt? current.filled).getD ""
  if token.isWhitespace then
    current.append config token current.statement.error current.filled
  else if token.kind = expected then
    current.append config token current.statement.error (current.filled + 1)
  else
    current.append config { token with invalid := true }
      (some { expected := expected, found := token.kind, span := token.span }) current.filled

end Open

def statementsFrom (config : Config) : Open -> List Token -> List Statement
  | current, [] => [current.statement]
  | current, token :: rest =>
      if current.filled = config.fieldCount then
        current.statement :: statementsFrom config (Open.start.push config token) rest
      else statementsFrom config (current.push config token) rest

def statements (config : Config) : List Token -> List Statement
  | [] => []
  | token :: rest => statementsFrom config (Open.start.push config token) rest

end Matching

namespace Config

def tokens (config : Config) (text : String) : List Token :=
  Scan.tokens text config.rules config.defaultKind

/-- The statements of a text. -/
def parse (config : Config) (text : String) : List Statement :=
  Matching.statements config (config.tokens text)

end Config
end FieldGrammar
