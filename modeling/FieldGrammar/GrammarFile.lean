import FieldGrammar.Config
import FieldGrammar.Json.Decoder
import FieldGrammar.Json.Printer

/-!
# Grammar files

A grammar file declares a configuration as JSON: the format, the kind of text
that no rule covers, and the rules.  A rule with values offers them as
suggestions.
-/

namespace FieldGrammar

structure RuleEntry where
  name : String
  pattern : String
  description : Option String
  values : List String
deriving DecidableEq, Repr

structure GrammarFile where
  format : List String
  defaultKind : String
  rules : List RuleEntry
deriving DecidableEq, Repr

/-!
# Writing

A description is written when there is one, and values when there are any.
-/

namespace RuleEntry

def toJson (entry : RuleEntry) : Json :=
  .object
    ([("name", .string entry.name), ("pattern", .string entry.pattern)] ++
      (entry.description.map fun text => ("description", Json.string text)).toList ++
      (if entry.values.isEmpty then [] else [("values", Json.strings entry.values)]))

end RuleEntry

namespace GrammarFile

def toJson (file : GrammarFile) : Json :=
  .object
    [("format", Json.strings file.format),
     ("default_type", .string file.defaultKind),
     ("rules", .array (file.rules.map RuleEntry.toJson))]

def write (file : GrammarFile) : String :=
  file.toJson.compact

end GrammarFile

/-!
# Reading
-/

namespace RuleEntry

/-- A rule entry of which some fields have not been read yet. -/
structure Draft where
  name : Option String
  pattern : Option String
  description : Option (Option String)
  values : Option (List String)

namespace Draft

def empty : Draft :=
  { name := none, pattern := none, description := none, values := none }

def finish (draft : Draft) : Option RuleEntry := do
  some
    { name := ← draft.name
      pattern := ← draft.pattern
      description := draft.description.getD none
      values := draft.values.getD [] }

open Json.Decoder in
def fields : List (RecordField Draft) :=
  [{ name := "name"
     required := true
     present := fun draft => draft.name.isSome
     read := fun draft cs => do
       let (value, rest) ← text cs
       .ok ({ draft with name := some value }, rest) },
   { name := "pattern"
     required := true
     present := fun draft => draft.pattern.isSome
     read := fun draft cs => do
       let (value, rest) ← text cs
       .ok ({ draft with pattern := some value }, rest) },
   { name := "description"
     required := false
     present := fun draft => draft.description.isSome
     read := fun draft cs => do
       let (value, rest) ← text? cs
       .ok ({ draft with description := some value }, rest) },
   { name := "values"
     required := false
     present := fun draft => draft.values.isSome
     read := fun draft cs => do
       let (value, rest) ← list text cs
       .ok ({ draft with values := some value }, rest) }]

end Draft

def decoder : Json.Decoder RuleEntry :=
  Json.Decoder.record Draft.fields Draft.empty Draft.finish

end RuleEntry

namespace GrammarFile

/-- A grammar file of which some fields have not been read yet. -/
structure Draft where
  format : Option (List String)
  defaultKind : Option String
  rules : Option (List RuleEntry)

namespace Draft

def empty : Draft :=
  { format := none, defaultKind := none, rules := none }

def finish (draft : Draft) : Option GrammarFile := do
  some
    { format := ← draft.format
      defaultKind := draft.defaultKind.getD Token.unknownKind
      rules := ← draft.rules }

open Json.Decoder in
def fields : List (RecordField Draft) :=
  [{ name := "format"
     required := true
     present := fun draft => draft.format.isSome
     read := fun draft cs => do
       let (value, rest) ← list text cs
       .ok ({ draft with format := some value }, rest) },
   { name := "default_type"
     required := false
     present := fun draft => draft.defaultKind.isSome
     read := fun draft cs => do
       let (value, rest) ← text cs
       .ok ({ draft with defaultKind := some value }, rest) },
   { name := "rules"
     required := true
     present := fun draft => draft.rules.isSome
     read := fun draft cs => do
       let (value, rest) ← list RuleEntry.decoder cs
       .ok ({ draft with rules := some value }, rest) }]

end Draft

def decoder : Json.Decoder GrammarFile :=
  Json.Decoder.record Draft.fields Draft.empty Draft.finish

def read (text : String) : Except Json.Fault GrammarFile :=
  Json.Decoder.run decoder text

end GrammarFile

/-!
# The configuration of a grammar file

Patterns are read before anything else is checked, in the order of the rules, and
in the dialect that is given.
-/

namespace RuleEntry

def toRule (dialect : Pattern.Dialect) (entry : RuleEntry) : Except ConfigError Rule :=
  match Pattern.ofText? entry.pattern dialect with
  | none => .error (.invalidPattern entry.name)
  | some pattern =>
      .ok
        { name := entry.name
          pattern := pattern
          description := entry.description
          source := if entry.values.isEmpty then none else some (.listed entry.values) }

end RuleEntry

namespace GrammarFile

def rulesOf (dialect : Pattern.Dialect) : List RuleEntry -> Except ConfigError (List Rule)
  | [] => .ok []
  | entry :: rest => do
      let rule ← entry.toRule dialect
      let rules ← rulesOf dialect rest
      .ok (rule :: rules)

def toConfig (file : GrammarFile) (dialect : Pattern.Dialect := .standard) :
    Except ConfigError Config := do
  let rules ← rulesOf dialect file.rules
  Config.ofParts file.format rules file.defaultKind

end GrammarFile

namespace Config

/-- The configuration of the text of a grammar file. -/
def ofGrammar (text : String) (dialect : Pattern.Dialect := .standard) :
    Except ConfigError Config :=
  match GrammarFile.read text with
  | .error fault => .error (.malformed fault)
  | .ok file => file.toConfig dialect

/-- The configuration of the grammar file at a path, given what reading the file gave. -/
def ofFile (path : String) (content : Except ReadError String)
    (dialect : Pattern.Dialect := .standard) : Except ConfigError Config :=
  match content with
  | .error reason => .error (.unreadable path reason)
  | .ok text => ofGrammar text dialect

end Config
end FieldGrammar
