import FieldGrammar.Matching

/-!
# The caret

The focus is the statement that the caret is in and, when the caret is on a
field, its token.  Tokens include both of their ends, so on a boundary the
earlier one has the caret.
-/

namespace FieldGrammar

structure Focus where
  statement : Nat
  token : Option Nat
deriving DecidableEq, Repr

namespace Focus

def onField (config : Config) (caret : Nat) (token : Token) : Bool :=
  token.span.touches caret && !config.isFiller token.kind

/-- The first statement with a field under the caret, and the first such field of it. -/
def field? (config : Config) (caret : Nat) (statements : List Statement) : Option Focus := do
  let statement ← statements.findIdx? fun statement => statement.tokens.any (onField config caret)
  let found ← statements[statement]?
  let token ← found.tokens.findIdx? (onField config caret)
  some { statement := statement, token := some token }

/-- The first statement that the caret touches at all. -/
def touched? (caret : Nat) (statements : List Statement) : Option Focus :=
  let touched (statement : Statement) := statement.tokens.any fun token => token.span.touches caret
  (statements.findIdx? touched).map fun index => { statement := index, token := none }

def last? (statements : List Statement) : Option Focus :=
  if statements.isEmpty then none
  else some { statement := statements.length - 1, token := none }

/-- A caret outside every statement belongs to the last one. -/
def resolve (config : Config) (statements : List Statement) (caret : Nat) : Option Focus :=
  ((field? config caret statements).or (touched? caret statements)).or (last? statements)

end Focus
end FieldGrammar
