import FieldGrammar.Json.Fault
import FieldGrammar.Text

/-!
# Blanks, strings and numbers

The small readers that the readers of JSON values are made of.  Each takes the text
that is left, and gives what it read with the text after it, or the fault it met
first.
-/

namespace FieldGrammar
namespace Json

abbrev Decoder (α : Type) := List Char -> Except Fault (α × List Char)

def isBlank (c : Char) : Bool :=
  c = ' ' || c = '\t' || c = '\n' || c = '\r'

def skipBlanks (cs : List Char) : List Char :=
  cs.dropWhile isBlank

/-- The given characters, of which a missing one is a sudden end and another one a fault. -/
def readExactly : List Char -> List Char -> Except Fault (List Char)
  | [], cs => .ok cs
  | _ :: _, [] => .error .unexpectedEnd
  | expected :: more, c :: rest =>
      if c = expected then readExactly more rest else .error .malformed

/-!
# Strings
-/

/-- Four hexadecimal digits.  With fewer than four bytes left the text has ended. -/
def readHex : Decoder Nat := fun cs =>
  let fault : Fault := if Text.byteLength (cs.take 4) < 4 then .unexpectedEnd else .malformed
  match cs with
  | a :: b :: c :: d :: rest =>
      match Text.hexValue? a, Text.hexValue? b, Text.hexValue? c, Text.hexValue? d with
      | some a, some b, some c, some d => .ok (((a * 16 + b) * 16 + c) * 16 + d, rest)
      | _, _, _, _ => .error fault
  | _ => .error fault

def isLeadingSurrogate (n : Nat) : Bool :=
  0xD800 ≤ n && n ≤ 0xDBFF

def isTrailingSurrogate (n : Nat) : Bool :=
  0xDC00 ≤ n && n ≤ 0xDFFF

def surrogatePair (leading trailing : Nat) : Nat :=
  (leading - 0xD800) * 0x400 + (trailing - 0xDC00) + 0x10000

/-- The second half of a surrogate pair, escape included. -/
def readTrailing : Decoder Nat
  | [] => .error .unexpectedEnd
  | '\\' :: [] => .error .unexpectedEnd
  | '\\' :: 'u' :: rest => do
      let (n, rest) ← readHex rest
      if isTrailingSurrogate n then .ok (n, rest) else .error .malformed
  | _ => .error .malformed

/-- A code point in hexadecimal; outside the first plane it takes two escapes. -/
def readCodePoint : Decoder Char := fun cs => do
  let (n, rest) ← readHex cs
  if isTrailingSurrogate n then .error .malformed
  else if isLeadingSurrogate n then
    let (trailing, rest) ← readTrailing rest
    .ok (Char.ofNat (surrogatePair n trailing), rest)
  else .ok (Char.ofNat n, rest)

/-- The characters that an escape of one letter stands for. -/
def simpleEscape? : Char -> Option Char
  | '"' => some '"'
  | '\\' => some '\\'
  | '/' => some '/'
  | 'b' => some '\x08'
  | 'f' => some '\x0c'
  | 'n' => some '\n'
  | 'r' => some '\r'
  | 't' => some '\t'
  | _ => none

/-- An escape, after its backslash. -/
def readEscape : Decoder Char
  | [] => .error .unexpectedEnd
  | c :: rest =>
      if c = 'u' then readCodePoint rest
      else
        match simpleEscape? c with
        | some plain => .ok (plain, rest)
        | none => .error .malformed

def isControl (c : Char) : Bool :=
  c.toNat < 0x20

/-- The characters of a string up to its closing quote. -/
def readChars : Nat -> Decoder (List Char)
  | 0, _ => .error .unexpectedEnd
  | _ + 1, [] => .error .unexpectedEnd
  | fuel + 1, c :: rest =>
      if c = '"' then .ok ([], rest)
      else if c = '\\' then do
        let (plain, rest) ← readEscape rest
        let (more, rest) ← readChars fuel rest
        .ok (plain :: more, rest)
      else if isControl c then .error .malformed
      else do
        let (more, rest) ← readChars fuel rest
        .ok (c :: more, rest)

/-- A string, after its opening quote. -/
def readString : Decoder String := fun cs => do
  let (text, rest) ← readChars (cs.length + 1) cs
  .ok (String.ofList text, rest)

/-!
# Numbers

A number is only asked whether it is written well and whether it is in the range
of double precision.
-/

/-- From here on, numbers round to infinity. -/
def infinityBound : Nat := Nat.pow 2 1024 - Nat.pow 2 970

/-- Whether a whole number times a power of ten is below the bound. -/
def isFinite (significand : Nat) (exponent : Int) : Bool :=
  if significand = 0 then true
  else
    let magnitude := (Nat.toDigits 10 significand).length + exponent
    if magnitude < 308 then true
    else if 310 < magnitude then false
    else if 0 ≤ exponent then significand * Nat.pow 10 exponent.toNat < infinityBound
    else significand < infinityBound * Nat.pow 10 (-exponent).toNat

structure Number where
  whole : List Char
  fraction : List Char
  exponent : Int

namespace Number

def isFinite (number : Number) : Bool :=
  Json.isFinite (Text.decimalValue (number.whole ++ number.fraction))
    (number.exponent - number.fraction.length)

end Number

/-- The digits of the whole part; a zero stands alone. -/
def readWhole : Decoder (List Char)
  | [] => .error .unexpectedEnd
  | c :: rest =>
      if c = '0' then
        match rest with
        | [] => .ok ([c], rest)
        | next :: _ => if next.isDigit then .error .malformed else .ok ([c], rest)
      else if c.isDigit then .ok (c :: rest.takeWhile Char.isDigit, rest.dropWhile Char.isDigit)
      else .error .malformed

/-- At least one digit. -/
def readDigits : Decoder (List Char)
  | [] => .error .unexpectedEnd
  | c :: rest =>
      if c.isDigit then .ok (c :: rest.takeWhile Char.isDigit, rest.dropWhile Char.isDigit)
      else .error .malformed

def readFraction : Decoder (List Char)
  | '.' :: rest => readDigits rest
  | rest => .ok ([], rest)

def readExponentDigits (negative : Bool) : Decoder Int := fun cs => do
  let (digits, rest) ← readDigits cs
  let value : Int := Text.decimalValue digits
  .ok (if negative then -value else value, rest)

def readExponent : Decoder Int
  | [] => .ok (0, [])
  | c :: rest =>
      if c = 'e' ∨ c = 'E' then
        match rest with
        | '+' :: rest => readExponentDigits false rest
        | '-' :: rest => readExponentDigits true rest
        | rest => readExponentDigits false rest
      else .ok (0, c :: rest)

/-- A number, after its sign. -/
def readNumber : Decoder Number := fun cs => do
  let (whole, rest) ← readWhole cs
  let (fraction, rest) ← readFraction rest
  let (exponent, rest) ← readExponent rest
  .ok ({ whole := whole, fraction := fraction, exponent := exponent }, rest)

end Json
end FieldGrammar
