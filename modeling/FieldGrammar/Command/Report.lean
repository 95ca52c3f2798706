import FieldGrammar.Analysis

/-!
# Reports

What is wrong with a statement, at the place in the text where it is shown.
-/

namespace FieldGrammar
namespace Command

inductive Level where
  | error
  | warning
deriving DecidableEq, Repr

structure Report where
  level : Level
  offset : Nat
  message : String
  label : String
deriving DecidableEq, Repr

namespace Report

/-- A statement with an error is reported there; a statement that lacks fields, at its start. -/
def ofStatement? (config : Config) (statement : Statement) : Option Report := do
  let span ← statement.span?
  match statement.error with
  | some mismatch =>
      some
        { level := .error
          offset := mismatch.span.start
          message := mismatch.message
          label := "this is " ++ mismatch.found }
  | none =>
      if statement.incomplete then
        let missing := (config.expectedAt? statement.fieldCount).getD ""
        some
          { level := .warning
            offset := span.start
            message := "incomplete statement"
            label := "expected " ++ missing ++ " next" }
      else none

def ofStatements (config : Config) (statements : List Statement) : List Report :=
  statements.filterMap (ofStatement? config)

end Report

/-!
# Places

A report is shown at a line and a column of the text.  Both are counted from
one, columns in characters.
-/

structure Place where
  line : Nat
  column : Nat
deriving DecidableEq, Repr

namespace Place

def next (place : Place) (c : Char) : Place :=
  if c = '\n' then { line := place.line + 1, column := 1 }
  else { place with column := place.column + 1 }

/-- The place of a byte offset in a text. -/
def ofOffset (text : String) (offset : Nat) : Place :=
  (Text.front offset text.toList).foldl next { line := 1, column := 1 }

end Place

/-- A report with the place where it is shown. -/
structure PlacedReport where
  report : Report
  place : Place
deriving DecidableEq, Repr

namespace Report

def placed (text : String) (report : Report) : PlacedReport :=
  { report := report, place := Place.ofOffset text report.offset }

end Report
end Command
end FieldGrammar
