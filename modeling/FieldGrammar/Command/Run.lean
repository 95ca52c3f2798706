import FieldGrammar.Builtin
import FieldGrammar.Command.Arguments
import FieldGrammar.Command.Repl
import FieldGrammar.Command.Report
import FieldGrammar.Json.Printer
import FieldGrammar.Record
import FieldGrammar.Suggestion

/-!
# Running a command

A run takes the arguments, the input and the files, and gives the exit code, the
output, the reports and the error lines.
-/

namespace FieldGrammar
namespace Command

structure Outcome where
  exit : Nat
  output : String
  reports : List PlacedReport
  errors : List String
deriving DecidableEq, Repr

def linesText (lines : List String) : String :=
  String.join (lines.map (· ++ "\n"))

namespace Outcome

def success (output : String) : Outcome :=
  { exit := 0, output := output, reports := [], errors := [] }

/-- The outcome of arguments that are not understood. -/
def usage : Outcome :=
  { exit := 2, output := "", reports := [], errors := [] }

end Outcome

/-- The caret stands at the end of the text unless it is given. -/
def caretOf (text : String) (caret : Option Nat) : Nat :=
  caret.getD (Text.byteLength text.toList)

/-!
# Parse
-/

def analysisText (pretty : Bool) (analysis : Analysis) : String :=
  (if pretty then analysis.toJson.pretty else analysis.toJson.compact) ++ "\n"

def runParse (config : Config) (text : String) (caret : Option Nat) (pretty : Bool) : Outcome :=
  .success (analysisText pretty (config.analyze text (caretOf text caret)))

/-!
# Check
-/

def runCheck (config : Config) (text : String) : Outcome :=
  let statements := (config.analyze text (caretOf text none)).statements
  let reports := (Report.ofStatements config statements).map (Report.placed text)
  let faulty := (statements.filter Statement.hasError).length
  let total := Nat.repr statements.length
  if faulty = 0 then
    { exit := 0, output := "✓ " ++ total ++ " statements\n", reports := reports, errors := [] }
  else
    { exit := 1
      output := ""
      reports := reports
      errors := ["✗ " ++ Nat.repr faulty ++ " of " ++ total ++ " statements have errors"] }

/-!
# Suggest
-/

def requestLine (request : Request) : String :=
  request.rule.name ++ " (query " ++ Text.quoted request.query ++ ", replaces " ++
    Nat.repr request.replace.start ++ ".." ++ Nat.repr request.replace.stop ++ ")"

def valueLines (values : List String) : List String :=
  if values.isEmpty then ["  no suggestions"] else values.map ("  " ++ ·)

def runSuggest (config : Config) (text : String) (caret : Option Nat) (page pageSize : Nat) :
    Outcome :=
  match Request.ofAnalysis? config (config.analyze text (caretOf text caret)) with
  | none => .success "Statement complete, nothing to suggest\n"
  | some request =>
      match request.fetch page pageSize with
      | .ok values => .success (linesText (requestLine request :: valueLines values))
      | .error _ =>
          { exit := 1, output := linesText [requestLine request], reports := [], errors := [] }

/-!
# The interactive loop
-/

def runRepl (files : Repl.Files) (config : Config) (input : String) : Outcome :=
  let turns := Repl.turns files config (Repl.linesOf input)
  { exit := 0
    output := linesText (Repl.greeting ++ turns.flatMap Repl.Turn.output ++ Repl.farewell)
    reports := []
    errors := turns.flatMap Repl.Turn.errors }

/-!
# Invocations
-/

def configOf (files : Repl.Files) : Option String -> Except ConfigError Config
  | none => .ok Builtin.config
  | some path => Config.ofFile path (files path)

/-- The outcome when the grammar file cannot be used. -/
def grammarFailure (error : ConfigError) : Outcome :=
  { exit := 2
    output := ""
    reports := []
    errors := ["Error loading grammar: " ++ error.message] }

def runAction (files : Repl.Files) (input : String) (config : Config) : Action -> Outcome
  | .parse text caret pretty => runParse config text caret pretty
  | .check text => runCheck config text
  | .suggest text caret page pageSize => runSuggest config text caret page pageSize
  | .repl => runRepl files config input

def run (files : Repl.Files) (arguments : List String) (input : String) : Outcome :=
  match Invocation.ofArguments? arguments with
  | none => .usage
  | some invocation =>
      match configOf files invocation.grammar with
      | .error error => grammarFailure error
      | .ok config => runAction files input config invocation.action

end Command
end FieldGrammar
