import FieldGrammar.Json.Scalar

/-!
# Reading JSON texts as records

A text is read directly as the value that is asked for, and the first fault met
in it decides.  A scalar of the wrong kind is a fault once it has been read, a
list or object in the wrong place as soon as it opens.  Values that nobody asks
for are passed over; they only have to be well formed.
-/

namespace FieldGrammar
namespace Json
namespace Decoder

/-!
# Values of the wrong kind
-/

/-- The fault of a value that is not of the kind asked for. -/
def wrongKind : List Char -> Fault
  | [] => .unexpectedEnd
  | c :: rest =>
      let afterScalar (read : Except Fault Unit) : Fault :=
        match read with
        | .error fault => fault
        | .ok _ => .unsuitable
      let number (cs : List Char) : Fault :=
        match readNumber cs with
        | .error fault => fault
        | .ok (value, _) => if value.isFinite then .unsuitable else .malformed
      match c with
      | 'n' => afterScalar (do let _ ← readExactly "ull".toList rest)
      | 't' => afterScalar (do let _ ← readExactly "rue".toList rest)
      | 'f' => afterScalar (do let _ ← readExactly "alse".toList rest)
      | '"' => afterScalar (do let _ ← readString rest)
      | '[' => .unsuitable
      | '{' => .unsuitable
      | '-' => number rest
      | c => if c.isDigit then number (c :: rest) else .malformed

/-!
# Values that are passed over

A number that is cut off is badly written here, surrogates need not come in
pairs, and no number is too large.  The open brackets are kept on a stack, so
nesting has no limit.
-/

inductive Bracket where
  | list
  | object
deriving DecidableEq, Repr

def passEscape : List Char -> Except Fault (List Char)
  | [] => .error .unexpectedEnd
  | c :: rest =>
      if c = 'u' then do
        let (_, rest) ← readHex rest
        .ok rest
      else if (simpleEscape? c).isSome then .ok rest
      else .error .malformed

/-- The rest of a string, after its opening quote. -/
def passChars : Nat -> List Char -> Except Fault (List Char)
  | 0, _ => .error .unexpectedEnd
  | _ + 1, [] => .error .unexpectedEnd
  | fuel + 1, c :: rest =>
      if c = '"' then .ok rest
      else if c = '\\' then do passChars fuel (← passEscape rest)
      else if isControl c then .error .malformed
      else passChars fuel rest

def passString (cs : List Char) : Except Fault (List Char) :=
  passChars (cs.length + 1) cs

/-- A number, after its sign. -/
def passNumber (cs : List Char) : Except Fault (List Char) :=
  match readNumber cs with
  | .ok (_, rest) => .ok rest
  | .error _ => .error .malformed

def readColon (cs : List Char) : Except Fault (List Char) :=
  match skipBlanks cs with
  | [] => .error .unexpectedEnd
  | ':' :: rest => .ok rest
  | _ => .error .malformed

/-- The name of a member, its quotes and the colon after it. -/
def passName (cs : List Char) : Except Fault (List Char) :=
  match skipBlanks cs with
  | [] => .error .unexpectedEnd
  | '"' :: rest => do readColon (← passString rest)
  | _ => .error .malformed

/-- What comes before the next value inside a bracket. -/
def passLead (bracket : Bracket) (cs : List Char) : Except Fault (List Char) :=
  match bracket with
  | .list => .ok cs
  | .object => passName cs

/-- After a value: closes brackets up to the next comma, which leads to the next value. -/
def passClosing : Nat -> List Bracket -> List Char -> Except Fault (List Bracket × List Char)
  | 0, _, _ => .error .unexpectedEnd
  | _ + 1, [], cs => .ok ([], cs)
  | fuel + 1, bracket :: outer, cs =>
      match skipBlanks cs, bracket with
      | [], _ => .error .unexpectedEnd
      | ',' :: rest, bracket => do .ok (bracket :: outer, ← passLead bracket rest)
      | ']' :: rest, .list => passClosing fuel outer rest
      | '}' :: rest, .object => passClosing fuel outer rest
      | _, _ => .error .malformed

/-- After an opening bracket: either it closes at once, or a value follows. -/
def passOpening (bracket : Bracket) (outer : List Bracket) (cs : List Char) :
    Except Fault (Bool × List Bracket × List Char) :=
  match skipBlanks cs, bracket with
  | [], _ => .error .unexpectedEnd
  | ']' :: rest, .list => .ok (true, outer, rest)
  | '}' :: rest, .object => .ok (true, outer, rest)
  | rest, bracket => do .ok (false, bracket :: outer, ← passLead bracket rest)

/-- One value or opening bracket; tells whether a value has ended. -/
def passHead (outer : List Bracket) (cs : List Char) :
    Except Fault (Bool × List Bracket × List Char) :=
  match skipBlanks cs with
  | [] => .error .unexpectedEnd
  | 'n' :: rest => do .ok (true, outer, ← readExactly "ull".toList rest)
  | 't' :: rest => do .ok (true, outer, ← readExactly "rue".toList rest)
  | 'f' :: rest => do .ok (true, outer, ← readExactly "alse".toList rest)
  | '"' :: rest => do .ok (true, outer, ← passString rest)
  | '[' :: rest => passOpening .list outer rest
  | '{' :: rest => passOpening .object outer rest
  | '-' :: rest => do .ok (true, outer, ← passNumber rest)
  | c :: rest =>
      if c.isDigit then do .ok (true, outer, ← passNumber (c :: rest)) else .error .malformed

def passValue : Nat -> List Bracket -> List Char -> Except Fault (List Char)
  | 0, _, _ => .error .unexpectedEnd
  | fuel + 1, outer, cs => do
      let (ended, outer, rest) ← passHead outer cs
      if ended then
        let (outer, rest) ← passClosing (rest.length + 1) outer rest
        if outer.isEmpty then .ok rest else passValue fuel outer rest
      else passValue fuel outer rest

def pass (cs : List Char) : Except Fault (List Char) :=
  passValue (cs.length + 1) [] cs

/-!
# Strings and lists
-/

def text : Decoder String := fun cs =>
  match skipBlanks cs with
  | '"' :: rest => readString rest
  | rest => .error (wrongKind rest)

/-- A string or null. -/
def text? : Decoder (Option String) := fun cs =>
  match skipBlanks cs with
  | 'n' :: rest => do .ok (none, ← readExactly "ull".toList rest)
  | rest => do
      let (value, rest) ← text rest
      .ok (some value, rest)

/-- Where the next item of a list starts, or nothing at the closing bracket. -/
def nextItem (first : Bool) (cs : List Char) : Except Fault (Option (List Char)) :=
  match skipBlanks cs with
  | [] => .error .unexpectedEnd
  | ']' :: _ => .ok none
  | c :: rest =>
      if first then .ok (some (c :: rest))
      else if c = ',' then
        match skipBlanks rest with
        | [] => .error .unexpectedEnd
        | ']' :: _ => .error .malformed
        | rest => .ok (some rest)
      else .error .malformed

def closeList (cs : List Char) : Except Fault (List Char) :=
  match skipBlanks cs with
  | [] => .error .unexpectedEnd
  | ']' :: rest => .ok rest
  | _ => .error .malformed

def items (item : Decoder α) : Nat -> Bool -> Decoder (List α)
  | 0, _, _ => .error .unexpectedEnd
  | fuel + 1, first, cs => do
      match ← nextItem first cs with
      | none => .ok ([], cs)
      | some cs =>
          let (value, rest) ← item cs
          let (values, rest) ← items item fuel false rest
          .ok (value :: values, rest)

def list (item : Decoder α) : Decoder (List α) := fun cs =>
  match skipBlanks cs with
  | '[' :: rest => do
      let (values, rest) ← items item (rest.length + 1) true rest
      .ok (values, ← closeList rest)
  | rest => .error (wrongKind rest)

/-!
# Records

A record is written as an object, or as the list of its fields in order.  It is
read into a draft.  In an object, members with an unknown name are passed over,
and none may occur twice.  In a list, fields that are not required may be left
out at the end.
-/

structure RecordField (σ : Type) where
  name : String
  required : Bool
  /-- Whether the draft has the field already. -/
  present : σ -> Bool
  read : σ -> Decoder σ

/-- The fields of a record written as a list. -/
def elements : List (RecordField σ) -> σ -> Bool -> Decoder σ
  | [], draft, _, cs => .ok (draft, cs)
  | field :: fields, draft, first, cs => do
      match ← nextItem first cs with
      | none => if field.required then .error .unsuitable else elements fields draft first cs
      | some cs =>
          let (draft, rest) ← field.read draft cs
          elements fields draft false rest

/-- Where the name of the next member starts, after its quote, or nothing at the closing brace. -/
def nextMember (first : Bool) (cs : List Char) : Except Fault (Option (List Char)) :=
  match skipBlanks cs with
  | [] => .error .unexpectedEnd
  | '}' :: _ => .ok none
  | c :: rest =>
      if first then
        if c = '"' then .ok (some rest) else .error .malformed
      else if c = ',' then
        match skipBlanks rest with
        | [] => .error .unexpectedEnd
        | '"' :: rest => .ok (some rest)
        | _ => .error .malformed
      else .error .malformed

/-- The fields of a record written as an object. -/
def members (fields : List (RecordField σ)) : Nat -> σ -> Bool -> Decoder σ
  | 0, _, _, _ => .error .unexpectedEnd
  | fuel + 1, draft, first, cs => do
      match ← nextMember first cs with
      | none => .ok (draft, cs)
      | some cs =>
          let (name, rest) ← readString cs
          match fields.find? fun field => field.name == name with
          | none =>
              let rest ← pass (← readColon rest)
              members fields fuel draft false rest
          | some field =>
              if field.present draft then .error .unsuitable
              else
                let (draft, rest) ← field.read draft (← readColon rest)
                members fields fuel draft false rest

def closeObject (cs : List Char) : Except Fault (List Char) :=
  match skipBlanks cs with
  | [] => .error .unexpectedEnd
  | '}' :: rest => .ok rest
  | _ => .error .malformed

/-- The record of a draft, if the draft is complete. -/
def complete (finish : σ -> Option α) (draft : σ) : Except Fault α :=
  match finish draft with
  | none => .error .unsuitable
  | some value => .ok value

def record (fields : List (RecordField σ)) (empty : σ) (finish : σ -> Option α) :
    Decoder α := fun cs =>
  match skipBlanks cs with
  | '[' :: rest => do
      let (draft, rest) ← elements fields empty true rest
      let value ← complete finish draft
      .ok (value, ← closeList rest)
  | '{' :: rest => do
      let (draft, rest) ← members fields (rest.length + 1) empty true rest
      let value ← complete finish draft
      .ok (value, ← closeObject rest)
  | rest => .error (wrongKind rest)

/-- Reads a text that holds nothing else. -/
def run (decoder : Decoder α) (text : String) : Except Fault α := do
  let (value, rest) ← decoder text.toList
  if (skipBlanks rest).isEmpty then .ok value else .error .malformed

end Decoder
end Json
end FieldGrammar
