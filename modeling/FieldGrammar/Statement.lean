import FieldGrammar.Token

/-!
# Statements

A statement is a group of tokens that is expected to follow the statement
format.  It remembers the latest token that did not fit, and whether fields are
still missing.
-/

namespace FieldGrammar

/-- A token that is not of the kind expected at its place. -/
structure Mismatch where
  expected : String
  found : String
  span : Span
deriving DecidableEq, Repr

namespace Mismatch

def message (mismatch : Mismatch) : String :=
  "expected " ++ mismatch.expected ++ " but encountered " ++ mismatch.found

end Mismatch

structure Statement where
  tokens : List Token
  error : Option Mismatch
  incomplete : Bool
deriving DecidableEq, Repr

namespace Statement

def empty : Statement :=
  { tokens := [], error := none, incomplete := true }

instance : Inhabited Statement := ⟨empty⟩

def fields (statement : Statement) : List Token :=
  statement.tokens.filter Token.isField

def fieldCount (statement : Statement) : Nat :=
  statement.fields.length

def firstField? (statement : Statement) : Option Token :=
  statement.fields.head?

def hasError (statement : Statement) : Bool :=
  statement.error.isSome

/-- The text of the mismatch, empty when there is none. -/
def errorMessage (statement : Statement) : String :=
  match statement.error with
  | none => ""
  | some mismatch => mismatch.message

/-- The span from the first token to the last, if there is a token. -/
def span? (statement : Statement) : Option Span :=
  match statement.tokens.head?, statement.tokens.getLast? with
  | some first, some last => some (first.span.merge last.span)
  | _, _ => none

end Statement
end FieldGrammar
