import FieldGrammar.Json.Fault
import FieldGrammar.Rule

/-!
# Configurations

A configuration is a statement format, the sequence of the kinds of its fields,
with the rules that recognise them.  It carries the proof that it is well formed,
so whatever is given a configuration can rely on it.
-/

namespace FieldGrammar

/-!
# Errors
-/

/-- Why the text of a file cannot be had. -/
inductive ReadError where
  | notFound
  | notDirectory
  | isDirectory
  | notText
deriving DecidableEq, Repr

namespace ReadError

def message : ReadError -> String
  | notFound => "No such file or directory (os error 2)"
  | notDirectory => "Not a directory (os error 20)"
  | isDirectory => "Is a directory (os error 21)"
  | notText => "stream did not contain valid UTF-8"

end ReadError

inductive ConfigError where
  | emptyFormat
  | unknownField (name : String)
  | duplicateRule (name : String)
  | reservedName (name : String)
  | invalidPattern (rule : String)
  | unreadable (path : String) (reason : ReadError)
  | malformed (fault : Json.Fault)
deriving DecidableEq, Repr

namespace ConfigError

/-- The message of an error, without the account of what is wrong inside a pattern or a JSON text. -/
def message : ConfigError -> String
  | emptyFormat => "statement format is empty"
  | unknownField name => "statement format references unknown field type '" ++ name ++ "'"
  | duplicateRule name => "token rule '" ++ name ++ "' is defined more than once"
  | reservedName name => "'" ++ name ++ "' is reserved and cannot be used as a token rule name"
  | invalidPattern rule => "invalid pattern for token rule '" ++ rule ++ "'"
  | unreadable path reason => "failed to read grammar file " ++ path ++ ": " ++ reason.message
  | malformed _ => "invalid grammar file"

end ConfigError

/-!
# Well-formed configurations
-/

structure Config.WellFormed (format : List String) (rules : List Rule) (defaultKind : String) :
    Prop where
  format_ne_nil : format ≠ []
  default_ne_empty : defaultKind ≠ ""
  default_ne_whitespace : defaultKind ≠ Token.whitespaceKind
  names_ne_whitespace : ∀ rule ∈ rules, rule.name ≠ Token.whitespaceKind
  names_ne_default : ∀ rule ∈ rules, rule.name ≠ defaultKind
  names_nodup : (rules.map Rule.name).Nodup
  format_subset : ∀ name ∈ format, name ∈ rules.map Rule.name

structure Config where
  format : List String
  rules : List Rule
  defaultKind : String
  wellFormed : Config.WellFormed format rules defaultKind

namespace Config

/-!
# The first fault

The parts of a configuration are checked in a fixed order, and the first fault
is the one that is reported.
-/

/-- The first rule whose name is reserved, or is among the names before it. -/
def ruleFault? (defaultKind : String) : List String -> List Rule -> Option ConfigError
  | _, [] => none
  | earlier, rule :: rest =>
      if rule.name = Token.whitespaceKind ∨ rule.name = defaultKind then
        some (.reservedName rule.name)
      else if rule.name ∈ earlier then some (.duplicateRule rule.name)
      else ruleFault? defaultKind (rule.name :: earlier) rest

/-- The first name of the format that no rule has. -/
def formatFault? (format : List String) (rules : List Rule) : Option ConfigError :=
  (format.find? fun name => !(rules.map Rule.name).contains name).map .unknownField

def firstFault? (format : List String) (rules : List Rule) (defaultKind : String) :
    Option ConfigError :=
  if format = [] then some .emptyFormat
  else if defaultKind = "" ∨ defaultKind = Token.whitespaceKind then
    some (.reservedName defaultKind)
  else (ruleFault? defaultKind [] rules).or (formatFault? format rules)

theorem ruleFault?_eq_none {defaultKind : String} {earlier : List String} {rules : List Rule}
    (h : ruleFault? defaultKind earlier rules = none) :
    (∀ rule ∈ rules, rule.name ≠ Token.whitespaceKind) ∧
      (∀ rule ∈ rules, rule.name ≠ defaultKind) ∧
      (∀ rule ∈ rules, rule.name ∉ earlier) ∧ (rules.map Rule.name).Nodup := by
  induction rules generalizing earlier with
  | nil => simp
  | cons rule rest ih =>
      unfold ruleFault? at h
      split at h
      · cases h
      · rename_i hreserved
        split at h
        · cases h
        · rename_i hearlier
          obtain ⟨hwhite, hdefault, hnew, hnodup⟩ := ih h
          simp only [not_or] at hreserved
          refine ⟨?_, ?_, ?_, ?_⟩
          · exact List.forall_mem_cons.2 ⟨hreserved.1, hwhite⟩
          · exact List.forall_mem_cons.2 ⟨hreserved.2, hdefault⟩
          · refine List.forall_mem_cons.2 ⟨hearlier, ?_⟩
            intro other hother hmem
            exact hnew other hother (List.mem_cons_of_mem _ hmem)
          · rw [List.map_cons, List.nodup_cons]
            refine ⟨?_, hnodup⟩
            intro hmem
            obtain ⟨other, hother, hname⟩ := List.mem_map.1 hmem
            exact hnew other hother (hname ▸ List.mem_cons_self)

theorem formatFault?_eq_none {format : List String} {rules : List Rule}
    (h : formatFault? format rules = none) :
    ∀ name ∈ format, name ∈ rules.map Rule.name := by
  intro name hname
  have hfind := Option.map_eq_none_iff.1 h
  have := List.find?_eq_none.1 hfind name hname
  simpa using this

theorem wellFormed_of_firstFault? {format : List String} {rules : List Rule}
    {defaultKind : String} (h : firstFault? format rules defaultKind = none) :
    WellFormed format rules defaultKind := by
  unfold firstFault? at h
  split at h
  · cases h
  · rename_i hformat
    split at h
    · cases h
    · rename_i hdefault
      simp only [not_or] at hdefault
      rw [Option.or_eq_none_iff] at h
      obtain ⟨hwhite, hkind, _, hnodup⟩ := ruleFault?_eq_none h.1
      exact
        { format_ne_nil := hformat
          default_ne_empty := hdefault.1
          default_ne_whitespace := hdefault.2
          names_ne_whitespace := hwhite
          names_ne_default := hkind
          names_nodup := hnodup
          format_subset := formatFault?_eq_none h.2 }

def ofParts (format : List String) (rules : List Rule) (defaultKind : String) :
    Except ConfigError Config :=
  match h : firstFault? format rules defaultKind with
  | some error => .error error
  | none =>
      .ok
        { format := format
          rules := rules
          defaultKind := defaultKind
          wellFormed := wellFormed_of_firstFault? h }

/-!
# Queries
-/

/-- The number of fields of a complete statement. -/
def fieldCount (config : Config) : Nat :=
  config.format.length

/-- The kind expected after a number of fields, if another is expected. -/
def expectedAt? (config : Config) (filled : Nat) : Option String :=
  config.format[filled]?

def ruleFor? (config : Config) (kind : String) : Option Rule :=
  config.rules.find? fun rule => rule.name == kind

/-- White space and text that no rule covers stand between fields. -/
def isFiller (config : Config) (kind : String) : Bool :=
  kind == Token.whitespaceKind || kind == config.defaultKind

end Config
end FieldGrammar
