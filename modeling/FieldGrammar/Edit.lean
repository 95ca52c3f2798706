import FieldGrammar.Suggestion

/-!
# Edits

An edit is a new text with the place of the caret in it.
-/

namespace FieldGrammar

structure Edit where
  text : String
  caret : Nat
deriving DecidableEq, Repr

inductive EditError where
  | noActiveToken
deriving DecidableEq, Repr

namespace EditError

def message : EditError -> String
  | noActiveToken => "the caret is not on a field"

end EditError

namespace Edit

/--
Replaces a span of the text and leaves the caret after the replacement.  Both
ends of the span are taken back into the text and to where a character starts.
-/
def splice (text : String) (span : Span) (replacement : String) : Edit :=
  let cs := text.toList
  let start := Text.boundary span.start cs
  let stop := max (Text.boundary span.stop cs) start
  { text := String.ofList (Text.front start cs ++ replacement.toList ++ Text.back stop cs)
    caret := start + Text.byteLength replacement.toList }

def join (values : List String) : String :=
  ",".intercalate values

/-- Replaces the token under the caret. -/
def replaceActive (text : String) (analysis : Analysis) (values : List String) :
    Except EditError Edit :=
  match analysis.activeToken? with
  | none => .error .noActiveToken
  | some token => .ok (splice text token.span (join values))

def append (text : String) (values : List String) : Edit :=
  splice text (Span.point (Text.byteLength text.toList)) (join values)

/-- Puts a chosen value where its request wants it. -/
def insert (text : String) (request : Request) (value : String) : Edit :=
  splice text request.replace value

end Edit
end FieldGrammar
