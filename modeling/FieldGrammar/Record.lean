import FieldGrammar.Analysis
import FieldGrammar.Json.Value

/-!
# Records as JSON values

Spans, tokens, statements and analyses are exchanged as JSON.  A record is
written as an object.  It is read from an object, in which other members do not
matter, or from the list of its fields in order.
-/

namespace FieldGrammar

namespace Json

/-- An offset: a natural number below the bound on offsets. -/
def offset? : Json -> Option Nat
  | natural value => if value < Text.offsetBound then some value else none
  | _ => none

def string? : Json -> Option String
  | string text => some text
  | _ => none

def bool? : Json -> Option Bool
  | bool value => some value
  | _ => none

def listOf? (item : Json -> Option α) : Json -> Option (List α)
  | array items => items.mapM item
  | _ => none

/-- A value that may be null. -/
def nullable? (value : Json -> Option α) : Json -> Option (Option α)
  | null => some none
  | json => (value json).map some

/-- A member that has to be there. -/
def required? (members : List (String × Json)) (name : String) (value : Json -> Option α) :
    Option α := do
  value (← member? members name)

/-- A member that may be missing, which is as good as the given value. -/
def optional? (members : List (String × Json)) (name : String) (missing : α)
    (value : Json -> Option α) : Option α :=
  match member? members name with
  | none => some missing
  | some json => value json

end Json

/-!
# Spans
-/

namespace Span

def toJson (span : Span) : Json :=
  .object [("start", .natural span.start), ("end", .natural span.stop)]

def ofJson? : Json -> Option Span
  | .object members => do
      some
        { start := ← Json.required? members "start" Json.offset?
          stop := ← Json.required? members "end" Json.offset? }
  | .array [start, stop] => do
      some { start := ← start.offset?, stop := ← stop.offset? }
  | _ => none

end Span

/-!
# Tokens

The flag of an invalid token is written only when it is set.
-/

namespace Token

def toJson (token : Token) : Json :=
  .object
    ([("text", .string token.text), ("kind", .string token.kind), ("span", token.span.toJson)] ++
      (if token.invalid then [("invalid", .bool true)] else []))

def ofJson? : Json -> Option Token
  | .object members => do
      some
        { text := ← Json.required? members "text" Json.string?
          kind := ← Json.required? members "kind" Json.string?
          span := ← Json.required? members "span" Span.ofJson?
          invalid := ← Json.optional? members "invalid" false Json.bool? }
  | .array [text, kind, span] => do
      some
        { text := ← text.string?
          kind := ← kind.string?
          span := ← Span.ofJson? span
          invalid := false }
  | .array [text, kind, span, invalid] => do
      some
        { text := ← text.string?
          kind := ← kind.string?
          span := ← Span.ofJson? span
          invalid := ← invalid.bool? }
  | _ => none

end Token

/-!
# Mismatches and statements
-/

namespace Mismatch

def toJson (mismatch : Mismatch) : Json :=
  .object
    [("expected", .string mismatch.expected),
     ("found", .string mismatch.found),
     ("span", mismatch.span.toJson)]

def ofJson? : Json -> Option Mismatch
  | .object members => do
      some
        { expected := ← Json.required? members "expected" Json.string?
          found := ← Json.required? members "found" Json.string?
          span := ← Json.required? members "span" Span.ofJson? }
  | .array [expected, found, span] => do
      some
        { expected := ← expected.string?
          found := ← found.string?
          span := ← Span.ofJson? span }
  | _ => none

end Mismatch

namespace Statement

def toJson (statement : Statement) : Json :=
  .object
    [("tokens", .array (statement.tokens.map Token.toJson)),
     ("error", Json.ofOption Mismatch.toJson statement.error),
     ("incomplete", .bool statement.incomplete)]

def ofJson? : Json -> Option Statement
  | .object members => do
      some
        { tokens := ← Json.required? members "tokens" (Json.listOf? Token.ofJson?)
          error := ← Json.optional? members "error" none (Json.nullable? Mismatch.ofJson?)
          incomplete := ← Json.required? members "incomplete" Json.bool? }
  | .array [tokens, error, incomplete] => do
      some
        { tokens := ← Json.listOf? Token.ofJson? tokens
          error := ← Json.nullable? Mismatch.ofJson? error
          incomplete := ← incomplete.bool? }
  | _ => none

end Statement

/-!
# Focus, prediction and analysis
-/

namespace Focus

def toJson (focus : Focus) : Json :=
  .object
    [("statement", .natural focus.statement), ("token", Json.ofOption Json.natural focus.token)]

def ofJson? : Json -> Option Focus
  | .object members => do
      some
        { statement := ← Json.required? members "statement" Json.offset?
          token := ← Json.optional? members "token" none (Json.nullable? Json.offset?) }
  | .array [statement, token] => do
      some { statement := ← statement.offset?, token := ← Json.nullable? Json.offset? token }
  | _ => none

end Focus

namespace Prediction

def toJson (prediction : Prediction) : Json :=
  .object [("kind", .string prediction.kind), ("span", prediction.span.toJson)]

end Prediction

namespace Analysis

def toJson (analysis : Analysis) : Json :=
  .object
    [("statements", .array (analysis.statements.map Statement.toJson)),
     ("caret", .natural analysis.caret),
     ("active", Json.ofOption Focus.toJson analysis.focus),
     ("prediction", Json.ofOption Prediction.toJson analysis.prediction)]

end Analysis
end FieldGrammar
