import FieldGrammar.Json.Value

/-!
# Writing JSON

The compact form has no blanks.  The pretty form puts every item and member on a
line of its own, indented by two spaces for each level.  Of the characters of a
string only quotes, backslashes and controls are escaped.
-/

namespace FieldGrammar
namespace Json

def lowerHexDigit (n : Nat) : Char :=
  Nat.digitChar n

def escapeChar (c : Char) : List Char :=
  if c = '"' then ['\\', '"']
  else if c = '\\' then ['\\', '\\']
  else if c = '\x08' then ['\\', 'b']
  else if c = '\t' then ['\\', 't']
  else if c = '\n' then ['\\', 'n']
  else if c = '\x0c' then ['\\', 'f']
  else if c = '\r' then ['\\', 'r']
  else if c.toNat < 0x20 then
    ['\\', 'u', '0', '0', lowerHexDigit (c.toNat / 16), lowerHexDigit (c.toNat % 16)]
  else [c]

def writeString (text : String) : List Char :=
  ['"'] ++ text.toList.flatMap escapeChar ++ ['"']

def writeBool (value : Bool) : List Char :=
  if value then "true".toList else "false".toList

/-!
# The compact form
-/

mutual

def writeCompact : Json -> List Char
  | null => "null".toList
  | bool value => writeBool value
  | natural value => Nat.toDigits 10 value
  | numeral literal => literal.toList
  | string text => writeString text
  | array items => ['['] ++ writeItems items ++ [']']
  | object members => ['{'] ++ writeMembers members ++ ['}']

def writeItems : List Json -> List Char
  | [] => []
  | [item] => writeCompact item
  | item :: rest => writeCompact item ++ [','] ++ writeItems rest

def writeMembers : List (String × Json) -> List Char
  | [] => []
  | [(name, value)] => writeString name ++ [':'] ++ writeCompact value
  | (name, value) :: rest =>
      writeString name ++ [':'] ++ writeCompact value ++ [','] ++ writeMembers rest

end

def compact (json : Json) : String :=
  String.ofList json.writeCompact

/-!
# The pretty form
-/

/-- The start of a line at a level. -/
def newLine (level : Nat) : List Char :=
  '\n' :: List.replicate (2 * level) ' '

mutual

def writePretty (level : Nat) : Json -> List Char
  | null => "null".toList
  | bool value => writeBool value
  | natural value => Nat.toDigits 10 value
  | numeral literal => literal.toList
  | string text => writeString text
  | array [] => "[]".toList
  | array (item :: rest) =>
      ['['] ++ writePrettyItems (level + 1) (item :: rest) ++ newLine level ++ [']']
  | object [] => ['{', '}']
  | object (member :: rest) =>
      ['{'] ++ writePrettyMembers (level + 1) (member :: rest) ++ newLine level ++ ['}']

def writePrettyItems (level : Nat) : List Json -> List Char
  | [] => []
  | [item] => newLine level ++ writePretty level item
  | item :: rest => newLine level ++ writePretty level item ++ [','] ++ writePrettyItems level rest

def writePrettyMembers (level : Nat) : List (String × Json) -> List Char
  | [] => []
  | [(name, value)] =>
      newLine level ++ writeString name ++ [':', ' '] ++ writePretty level value
  | (name, value) :: rest =>
      newLine level ++ writeString name ++ [':', ' '] ++ writePretty level value ++ [','] ++
        writePrettyMembers level rest

end

def pretty (json : Json) : String :=
  String.ofList (json.writePretty 0)

end Json
end FieldGrammar
