import FieldGrammar.Text

/-!
# Command line arguments

Options may stand before and after the other arguments, and the grammar option
also before the name of the command.  An option is given once at most.  After a
double dash nothing is an option.  Whatever does not fit is refused as a whole.
-/

namespace FieldGrammar
namespace Command

inductive Action where
  | parse (text : String) (caret : Option Nat) (pretty : Bool)
  | check (text : String)
  | suggest (text : String) (caret : Option Nat) (page pageSize : Nat)
  | repl
deriving DecidableEq, Repr

structure Invocation where
  grammar : Option String
  action : Action
deriving DecidableEq, Repr

/-!
# Options
-/

structure Switch where
  name : String
  letter : Option Char
  takesValue : Bool
deriving DecidableEq, Repr

def grammarSwitch : Switch :=
  { name := "grammar", letter := some 'g', takesValue := true }

def caretSwitch : Switch :=
  { name := "caret", letter := some 'c', takesValue := true }

def prettySwitch : Switch :=
  { name := "pretty", letter := some 'p', takesValue := false }

def pageSwitch : Switch :=
  { name := "page", letter := none, takesValue := true }

def pageSizeSwitch : Switch :=
  { name := "page-size", letter := none, takesValue := true }

/-- Options and positional arguments as they were given. -/
structure Given where
  options : List (String × String)
  positionals : List String
deriving DecidableEq, Repr

namespace Given

def empty : Given :=
  { options := [], positionals := [] }

def option? (given : Given) (switch : Switch) : Option String :=
  (given.options.find? fun entry => entry.1 == switch.name).map Prod.snd

/-- Adds an option, unless it was given before. -/
def addOption? (given : Given) (switch : Switch) (value : String) : Option Given :=
  if (given.option? switch).isSome then none
  else some { given with options := given.options ++ [(switch.name, value)] }

def addPositional (given : Given) (value : String) : Given :=
  { given with positionals := given.positionals ++ [value] }

end Given

/-!
# Reading options
-/

/-- The state after an argument: what was given, and the option that waits for its value. -/
abbrev Progress := Given × Option Switch

/-- An option by its long name, perhaps with its value after an equals sign. -/
def readLong (switches : List Switch) (given : Given) (body : List Char) : Option Progress := do
  let name := String.ofList (body.takeWhile (· != '='))
  let switch ← switches.find? fun switch => switch.name == name
  match body.dropWhile (· != '=') with
  | [] =>
      if switch.takesValue then some (given, some switch)
      else some (← given.addOption? switch "", none)
  | _ :: value =>
      if switch.takesValue then some (← given.addOption? switch (String.ofList value), none)
      else none

/-- Options by their letters.  The first that takes a value has the rest of the argument. -/
def readLetters (switches : List Switch) (given : Given) : List Char -> Option Progress
  | [] => some (given, none)
  | letter :: rest => do
      let switch ← switches.find? fun switch => switch.letter == some letter
      if switch.takesValue then
        match rest with
        | [] => some (given, some switch)
        | '=' :: value => some (← given.addOption? switch (String.ofList value), none)
        | value => some (← given.addOption? switch (String.ofList value), none)
      else readLetters switches (← given.addOption? switch "") rest

/-- Whether an argument starts with a dash and is more than that. -/
def isDashed (argument : String) : Bool :=
  match argument.toList with
  | '-' :: _ :: _ => true
  | _ => false

/-- An argument that starts with a dash and is no double dash. -/
def readDashed (switches : List Switch) (given : Given) (argument : String) : Option Progress :=
  match argument.toList with
  | '-' :: '-' :: body => readLong switches given body
  | '-' :: letters => readLetters switches given letters
  | _ => none

/-- Reads all arguments of a command. -/
def readArguments (switches : List Switch) : Given -> List String -> Option Given
  | given, [] => some given
  | given, argument :: rest =>
      if argument = "--" then some (rest.foldl Given.addPositional given)
      else if isDashed argument then
        match readDashed switches given argument with
        | none => none
        | some (given, none) => readArguments switches given rest
        | some (given, some switch) =>
            match rest with
            | [] => none
            | value :: rest =>
                if isDashed value then none
                else
                  match given.addOption? switch value with
                  | none => none
                  | some given => readArguments switches given rest
      else readArguments switches (given.addPositional argument) rest

/-- Reads options up to the name of the command; gives them with the name and what follows. -/
def readLeading (switches : List Switch) :
    Given -> List String -> Option (Given × String × List String)
  | _, [] => none
  | given, argument :: rest =>
      if argument = "--" then none
      else if isDashed argument then
        match readDashed switches given argument with
        | none => none
        | some (given, none) => readLeading switches given rest
        | some (given, some switch) =>
            match rest with
            | [] => none
            | value :: rest =>
                if isDashed value then none
                else
                  match given.addOption? switch value with
                  | none => none
                  | some given => readLeading switches given rest
      else some (given, argument, rest)

/-!
# Values
-/

/-- A number: digits, perhaps after a plus sign, below the bound on offsets. -/
def number? (text : String) : Option Nat :=
  let digits :=
    match text.toList with
    | '+' :: rest => rest
    | rest => rest
  if digits.isEmpty || !digits.all Char.isDigit then none
  else
    let value := Text.decimalValue digits
    if value < Text.offsetBound then some value else none

namespace Given

/-- The value of an option, which has to be a number when it is given. -/
def number? (given : Given) (switch : Switch) : Option (Option Nat) :=
  match given.option? switch with
  | none => some none
  | some text => (Command.number? text).map some

/-- The path of a grammar file, which cannot be empty. -/
def grammar? (given : Given) : Option (Option String) :=
  match given.option? grammarSwitch with
  | none => some none
  | some path => if path = "" then none else some (some path)

def text? (given : Given) : Option String :=
  match given.positionals with
  | [text] => some text
  | _ => none

end Given

/-!
# Commands
-/

def switchesOf? : String -> Option (List Switch)
  | "parse" => some [grammarSwitch, caretSwitch, prettySwitch]
  | "check" => some [grammarSwitch]
  | "suggest" => some [grammarSwitch, caretSwitch, pageSwitch, pageSizeSwitch]
  | "repl" => some [grammarSwitch]
  | _ => none

def defaultPageSize : Nat := 20

def actionOf? (name : String) (given : Given) : Option Action :=
  match name with
  | "parse" => do
      let text ← given.text?
      let caret ← given.number? caretSwitch
      some (.parse text caret (given.option? prettySwitch).isSome)
  | "check" => do some (.check (← given.text?))
  | "suggest" => do
      let text ← given.text?
      let caret ← given.number? caretSwitch
      let page ← given.number? pageSwitch
      let pageSize ← given.number? pageSizeSwitch
      some (.suggest text caret (page.getD 0) (pageSize.getD defaultPageSize))
  | "repl" => if given.positionals.isEmpty then some .repl else none
  | _ => none

/-- The grammar given after the name of the command counts before the one given ahead of it. -/
def Invocation.ofArguments? (arguments : List String) : Option Invocation := do
  let (leading, name, rest) ← readLeading [grammarSwitch] Given.empty arguments
  let switches ← switchesOf? name
  let given ← readArguments switches Given.empty rest
  let outer ← leading.grammar?
  let inner ← given.grammar?
  some { grammar := inner.or outer, action := ← actionOf? name given }

end Command
end FieldGrammar
