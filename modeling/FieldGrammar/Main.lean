import FieldGrammar.Command.Run

/-!
# The command line program

Reads files and the input, and prints what the commands give.
-/

namespace FieldGrammar
namespace Command

def readText (path : String) : IO (Except ReadError String) := do
  try
    let bytes ← IO.FS.readBinFile path
    match String.fromUTF8? bytes with
    | some text => return .ok text
    | none => return .error .notText
  catch error =>
    match error with
    | .inappropriateType .. => return .error .isDirectory
    | _ => return .error .notFound

def printLines (lines : List String) : IO Unit := do
  for line in lines do
    IO.println line
  (← IO.getStdout).flush

def printErrors (lines : List String) : IO Unit := do
  for line in lines do
    IO.eprintln line

/-- The file that a line of the interactive loop asks for, read in advance. -/
def filesFor (line : String) : IO Repl.Files := do
  match Repl.Line.ofString line with
  | .load path =>
      let content ← readText path
      return fun _ => content
  | _ => return fun _ => .error .notFound

partial def replLoop (config : Config) : IO Unit := do
  let input ← (← IO.getStdin).getLine
  match Repl.linesOf input with
  | line :: _ =>
      match Repl.turn? (← filesFor line) config line with
      | some turn =>
          printLines turn.output
          printErrors turn.errors
          replLoop turn.config
      | none => pure ()
  | [] => pure ()

def levelName : Level -> String
  | .error => "Error"
  | .warning => "Warning"

def reportLine (placed : PlacedReport) : String :=
  levelName placed.report.level ++ ": " ++ placed.report.message ++ " at " ++
    Nat.repr placed.place.line ++ ":" ++ Nat.repr placed.place.column ++
    " (" ++ placed.report.label ++ ")"

def execute (config : Config) (action : Action) : IO UInt32 := do
  match action with
  | .repl =>
      printLines Repl.greeting
      replLoop config
      printLines Repl.farewell
      return 0
  | action =>
      let outcome := runAction (fun _ => .error .notFound) "" config action
      printErrors (outcome.reports.map reportLine)
      IO.print outcome.output
      printErrors outcome.errors
      return outcome.exit.toUInt32

def usageText : String :=
  "usage: [--grammar FILE] parse TEXT [--caret N] [--pretty] | check TEXT | " ++
    "suggest TEXT [--caret N] [--page N] [--page-size N] | repl"

end Command
end FieldGrammar

open FieldGrammar FieldGrammar.Command in
def main (arguments : List String) : IO UInt32 := do
  match Invocation.ofArguments? arguments with
  | none =>
      printErrors [usageText]
      return 2
  | some invocation =>
      let files : Repl.Files ←
        match invocation.grammar with
        | none => pure fun _ => .error .notFound
        | some path => do
            let content ← readText path
            pure fun _ => content
      match configOf files invocation.grammar with
      | .ok config => execute config invocation.action
      | .error error =>
          let outcome := grammarFailure error
          printErrors outcome.errors
          return outcome.exit.toUInt32
