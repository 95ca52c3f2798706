import FieldGrammar.Pattern
import FieldGrammar.Source
import FieldGrammar.Text.Quoted

/-!
# Rules

A rule names one kind of token: the pattern that recognises it, and optionally a
description and a source of values.
-/

namespace FieldGrammar

structure Rule where
  name : String
  pattern : Pattern
  description : Option String
  source : Option Source

namespace Rule

def ofPattern (name : String) (pattern : Pattern) : Rule :=
  { name := name, pattern := pattern, description := none, source := none }

/-- The earliest match in a text that is not empty. -/
def find? (rule : Rule) (cs : List Char) : Option Pattern.Match :=
  rule.pattern.expr.find? none cs

/-- Rules are alike when they classify text in the same way; sources are not compared. -/
def alike (a b : Rule) : Bool :=
  a.name == b.name && a.pattern.text == b.pattern.text && a.description == b.description

/-- A rule without a source suggests nothing. -/
def suggest (rule : Rule) (context : Option Statement) (query : String)
    (page pageSize : Nat) : Except LookupError (List String) :=
  match rule.source with
  | none => .ok []
  | some source => source.lookup context query page pageSize

def interference? (rule : Rule) : Option Interference :=
  rule.source.bind Source.interference?

/-- The rule as it is shown for inspection. -/
def describe (rule : Rule) : String :=
  let description :=
    match rule.description with
    | none => "None"
    | some text => "Some(" ++ Text.quoted text ++ ")"
  "TokenRule \x7b name: " ++ Text.quoted rule.name ++
    ", pattern: " ++ Text.quoted rule.pattern.text ++
    ", description: " ++ description ++
    ", value_source: " ++ (if rule.source.isSome then "true" else "false") ++ " \x7d"

end Rule
end FieldGrammar
