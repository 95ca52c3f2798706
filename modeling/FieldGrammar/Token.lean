import FieldGrammar.Span

/-!
# Tokens

A token is a piece of the text with the name of its kind and its place.  The
kind is the name of a rule, the reserved kind for white space, or the kind given
to text that no rule covers.
-/

namespace FieldGrammar

structure Token where
  text : String
  kind : String
  span : Span
  /-- Set when the token does not fit its place in a statement. -/
  invalid : Bool
deriving DecidableEq, Repr

namespace Token

def whitespaceKind : String := "whitespace"

def unknownKind : String := "unknown"

/-- The token of the given characters, starting at a byte offset. -/
def placed (cs : List Char) (kind : String) (start : Nat) : Token :=
  { text := String.ofList cs
    kind := kind
    span := { start := start, stop := start + Text.byteLength cs }
    invalid := false }

/-- As `placed`, for a start that comes from outside and may leave no room for the text. -/
def placed? (cs : List Char) (kind : String) (start : Nat) : Except OffsetError Token :=
  if start + Text.byteLength cs < Text.offsetBound then .ok (placed cs kind start)
  else .error .additionOverflow

def isWhitespace (token : Token) : Bool :=
  token.kind == whitespaceKind

/-- A token fills a field when it is neither white space nor invalid. -/
def isField (token : Token) : Bool :=
  !token.isWhitespace && !token.invalid

end Token
end FieldGrammar
