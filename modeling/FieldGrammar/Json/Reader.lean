import FieldGrammar.Json.Scalar
import FieldGrammar.Json.Value

/-!
# Reading JSON values

A value is read from left to right.  Every item or member takes at least one
character, so the length of the text bounds the steps.
-/

namespace FieldGrammar
namespace Json

/-- A number as a value: a plain natural by what it stands for, any other as written. -/
def readNumeral (cs : List Char) : Option (Json × List Char) := do
  let unsigned := match cs with
    | '-' :: rest => rest
    | rest => rest
  let (number, rest) ← (readNumber unsigned).toOption
  let literal := cs.take (cs.length - rest.length)
  if literal.all Char.isDigit then some (natural (Text.decimalValue number.whole), rest)
  else some (numeral (String.ofList literal), rest)

/-- What stands between two items: a comma, or the closing bracket. -/
def readSeparator (closing : Char) (cs : List Char) : Option (Bool × List Char) :=
  match skipBlanks cs with
  | [] => none
  | c :: rest =>
      if c = ',' then some (true, rest)
      else if c = closing then some (false, rest)
      else none

mutual

def readValue : Nat -> List Char -> Option (Json × List Char)
  | 0, _ => none
  | fuel + 1, cs =>
      match skipBlanks cs with
      | [] => none
      | 'n' :: rest => do some (null, ← (readExactly "ull".toList rest).toOption)
      | 't' :: rest => do some (bool true, ← (readExactly "rue".toList rest).toOption)
      | 'f' :: rest => do some (bool false, ← (readExactly "alse".toList rest).toOption)
      | '"' :: rest => do
          let (text, rest) ← (readString rest).toOption
          some (string text, rest)
      | '[' :: rest =>
          match skipBlanks rest with
          | ']' :: rest => some (array [], rest)
          | rest => do
              let (items, rest) ← readItems fuel rest
              some (array items, rest)
      | '{' :: rest =>
          match skipBlanks rest with
          | '}' :: rest => some (object [], rest)
          | rest => do
              let (members, rest) ← readMembers fuel rest
              some (object members, rest)
      | cs => readNumeral cs

def readItems : Nat -> List Char -> Option (List Json × List Char)
  | 0, _ => none
  | fuel + 1, cs => do
      let (item, rest) ← readValue fuel cs
      let (more, rest) ← readSeparator ']' rest
      if more then
        let (items, rest) ← readItems fuel rest
        some (item :: items, rest)
      else some ([item], rest)

def readMembers : Nat -> List Char -> Option (List (String × Json) × List Char)
  | 0, _ => none
  | fuel + 1, cs =>
      match skipBlanks cs with
      | '"' :: rest => do
          let (name, rest) ← (readString rest).toOption
          match skipBlanks rest with
          | ':' :: rest =>
              let (value, rest) ← readValue fuel rest
              let (more, rest) ← readSeparator '}' rest
              if more then
                let (members, rest) ← readMembers fuel rest
                some ((name, value) :: members, rest)
              else some ([(name, value)], rest)
          | _ => none
      | _ => none

end

/-- The value of a text that holds nothing else. -/
def parse? (text : String) : Option Json := do
  let cs := text.toList
  let (json, rest) ← readValue (2 * cs.length + 2) cs
  if (skipBlanks rest).isEmpty then some json else none

end Json
end FieldGrammar
