import FieldGrammar.Pattern.Expr
import FieldGrammar.Pattern.Reader.Flags
import FieldGrammar.Text

/-!
# Escapes in patterns

An escape stands for a character, for a set of characters or for an assertion.
-/

namespace FieldGrammar
namespace Pattern
namespace Reader

inductive Primitive where
  | literal (c : Char)
  | set (s : CharSet)
  | look (assertion : Assertion)
deriving DecidableEq, Repr

/-- The character of a code point, if it is one. -/
def charOf? (n : Nat) : Option Char :=
  if n.isValidChar then some (Char.ofNat n) else none

/-- The given number of hexadecimal digits. -/
def readHexDigits (flags : Flags) : Nat -> Nat -> List Char -> Option (Nat × List Char)
  | 0, value, cs => some (value, cs)
  | _ + 1, _, [] => none
  | n + 1, value, c :: rest => do
      let digit ← Text.hexValue? c
      readHexDigits flags n (16 * value + digit) (flags.skip rest)

/-- Hexadecimal digits up to a closing brace. -/
def readHexBraced (flags : Flags) : Nat -> Option Nat -> List Char -> Option (Nat × List Char)
  | 0, _, _ => none
  | _ + 1, _, [] => none
  | fuel + 1, value, c :: rest =>
      if c = '}' then do
        let value ← value
        some (value, flags.skip rest)
      else do
        let digit ← Text.hexValue? c
        readHexBraced flags fuel (some (16 * value.getD 0 + digit)) (flags.skip rest)

/-- Two digits without braces give a byte, and in ASCII not every byte is a character. -/
def readHex (flags : Flags) (digits : Nat) (cs : List Char) : Option (Primitive × List Char) :=
  match flags.skip cs with
  | '{' :: rest => do
      let (value, rest) ← readHexBraced flags (rest.length + 1) none (flags.skip rest)
      let c ← charOf? value
      some (.literal c, rest)
  | rest => do
      let (value, rest) ← readHexDigits flags digits 0 rest
      let c ← charOf? value
      if digits = 2 && !flags.allows c then none else some (.literal c, rest)

/-- A name between braces, as it follows the escape for a word boundary. -/
def readBoundaryName (flags : Flags) : Nat -> List Char -> Option (List Char × List Char)
  | 0, _ => none
  | _ + 1, [] => none
  | fuel + 1, c :: rest =>
      if c = '}' then some ([], rest)
      else if c.isAlpha || c = '-' then do
        let (name, rest) ← readBoundaryName flags fuel (flags.skip rest)
        some (c :: name, rest)
      else none

def namedBoundary? (alphabet : Alphabet) (name : String) : Option Assertion :=
  match name with
  | "start" => some (.wordStart alphabet)
  | "end" => some (.wordEnd alphabet)
  | "start-half" => some (.wordStartHalf alphabet)
  | "end-half" => some (.wordEndHalf alphabet)
  | _ => none

/-- What follows the escape for a word boundary may name one side, or be a repetition. -/
def readBoundary (flags : Flags) (cs : List Char) : Option (Primitive × List Char) :=
  match cs with
  | '{' :: inner =>
      match flags.skip inner with
      | [] => none
      | c :: rest =>
          if c.isAlpha || c = '-' then do
            let (name, rest) ← readBoundaryName flags (rest.length + 2) (c :: rest)
            let assertion ← namedBoundary? flags.alphabet (String.ofList name)
            some (.look assertion, rest)
          else some (.look (.wordBoundary flags.alphabet), cs)
  | _ => some (.look (.wordBoundary flags.alphabet), cs)

/-- ASCII characters other than letters, digits and angle brackets can be escaped. -/
def isEscapable (c : Char) : Bool :=
  c.toNat < 128 && !c.isAlphanum && c != '<' && c != '>'

/-- An escape that stands for a set, or for what is not in the set. -/
def readClass (flags : Flags) (negated : Bool) (set : Alphabet -> CharSet) (rest : List Char) :
    Option (Primitive × List Char) := do
  let set ← flags.negate? negated (set flags.alphabet)
  some (.set set, rest)

/-- The escape after its backslash. -/
def readEscape (flags : Flags) : List Char -> Option (Primitive × List Char)
  | [] => none
  | 'x' :: rest => readHex flags 2 rest
  | 'u' :: rest => readHex flags 4 rest
  | 'U' :: rest => readHex flags 8 rest
  | 'd' :: rest => readClass flags false CharSet.digits rest
  | 'D' :: rest => readClass flags true CharSet.digits rest
  | 's' :: rest => readClass flags false CharSet.blanks rest
  | 'S' :: rest => readClass flags true CharSet.blanks rest
  | 'w' :: rest => readClass flags false CharSet.words rest
  | 'W' :: rest => readClass flags true CharSet.words rest
  | 'a' :: rest => some (.literal '\x07', rest)
  | 'f' :: rest => some (.literal '\x0c', rest)
  | 't' :: rest => some (.literal '\t', rest)
  | 'n' :: rest => some (.literal '\n', rest)
  | 'r' :: rest => some (.literal '\r', rest)
  | 'v' :: rest => some (.literal '\x0b', rest)
  | 'A' :: rest => some (.look .textStart, rest)
  | 'z' :: rest => some (.look .textEnd, rest)
  | 'b' :: rest => readBoundary flags rest
  | 'B' :: rest => some (.look (.noWordBoundary flags.alphabet), rest)
  | '<' :: rest => some (.look (.wordStart flags.alphabet), rest)
  | '>' :: rest => some (.look (.wordEnd flags.alphabet), rest)
  | c :: rest => if isEscapable c then some (.literal c, rest) else none

end Reader
end Pattern
end FieldGrammar
