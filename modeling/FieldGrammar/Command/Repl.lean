import FieldGrammar.Analysis
import FieldGrammar.GrammarFile

/-!
# The interactive loop

Each line is a command, which starts with a colon, or a text that is analysed
with the caret at its end.  Blanks around a command do not matter; around a text
they do.
-/

namespace FieldGrammar
namespace Command
namespace Repl

/-- What reading the file at a path gives. -/
abbrev Files := String -> Except ReadError String

/-!
# Lines
-/

inductive Line where
  | quit
  | help
  | format
  | load (path : String)
  | unknown
  | text (text : String)
deriving DecidableEq, Repr

def loadCommand : List Char := ":grammar ".toList

def Line.ofString (line : String) : Line :=
  let command := Text.trim Character.isWhiteSpace line.toList
  if command = ":quit".toList ∨ command = ":q".toList then .quit
  else if command = ":help".toList ∨ command = ":h".toList then .help
  else if command = ":format".toList then .format
  else if loadCommand.isPrefixOf command then
    .load (String.ofList (Text.trim Character.isWhiteSpace (command.drop loadCommand.length)))
  else if command.head? = some ':' then .unknown
  else .text line

/-!
# Answers
-/

def greeting : List String :=
  ["Fieldline REPL v0.1.0", "Type :help for help, :quit to exit", ""]

def farewell : List String :=
  ["Goodbye!"]

def helpText : List String :=
  ["Commands:",
   "  :grammar <file>  - Load a grammar file",
   "  :format          - Show the statement format",
   "  :quit            - Exit REPL",
   "Any other line is parsed with the caret at its end."]

def stateName (statement : Statement) : String :=
  if statement.hasError then "error"
  else if statement.incomplete then "incomplete"
  else "complete"

/-- A text filled up with spaces to a width. -/
def padded (width : Nat) (text : String) : String :=
  text ++ String.ofList (List.replicate (width - text.toList.length) ' ')

def tokenLine (token : Token) : String :=
  "  " ++ (if token.invalid then "✗" else " ") ++ " " ++ padded 12 token.kind ++ " " ++
    Text.quoted token.text

def statementLines (index : Nat) (statement : Statement) : List String :=
  ["statement " ++ Nat.repr index ++ " (" ++ stateName statement ++ ")"] ++
    (statement.tokens.filter (!·.isWhitespace)).map tokenLine ++
    (statement.error.map fun mismatch => "    " ++ mismatch.message).toList

def predictionLine : Option Prediction -> String
  | none => "next: (statement complete)"
  | some prediction =>
      match prediction.description with
      | none => "next: " ++ prediction.kind
      | some description => "next: " ++ prediction.kind ++ " - " ++ description

def summary (analysis : Analysis) : List String :=
  (analysis.statements.zipIdx.map fun entry => statementLines entry.2 entry.1).flatten ++
    [predictionLine analysis.prediction]

/-!
# Turns

A turn answers one line under the configuration in force, and leaves the
configuration for the next line.
-/

structure Turn where
  config : Config
  output : List String
  errors : List String

def load (files : Files) (config : Config) (path : String) : Turn :=
  match Config.ofFile path (files path) with
  | .ok loaded => { config := loaded, output := ["Loaded " ++ path], errors := [] }
  | .error error => { config := config, output := [], errors := ["Error: " ++ error.message] }

def say (config : Config) (output : List String) : Turn :=
  { config := config, output := output, errors := [] }

/-- The turn for a line, or nothing when the line ends the loop. -/
def turn? (files : Files) (config : Config) (line : String) : Option Turn :=
  match Line.ofString line with
  | .quit => none
  | .help => some (say config helpText)
  | .format => some (say config [" ".intercalate config.format])
  | .load path => some (load files config path)
  | .unknown => some (say config ["Unknown command. Type :help for help."])
  | .text text =>
      some (say config (summary (config.analyze text (Text.byteLength text.toList))))

/-- The turns for a list of lines, up to the line that ends the loop. -/
def turns (files : Files) : Config -> List String -> List Turn
  | _, [] => []
  | config, line :: rest =>
      match turn? files config line with
      | none => []
      | some turn => turn :: turns files turn.config rest

/-!
# Input lines
-/

/-- The lines of a text.  A line ends with a line feed, and a carriage return before it. -/
def splitLines (current : List Char) : List Char -> List String
  | [] => if current.isEmpty then [] else [String.ofList current.reverse]
  | c :: rest =>
      if c = '\n' then
        let line :=
          match current with
          | '\r' :: line => line
          | line => line
        String.ofList line.reverse :: splitLines [] rest
      else splitLines (c :: current) rest

def linesOf (input : String) : List String :=
  splitLines [] input.toList

end Repl
end Command
end FieldGrammar
