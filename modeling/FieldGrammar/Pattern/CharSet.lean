import FieldGrammar.Character.CaseFolding
import FieldGrammar.Character.WhiteSpace
import FieldGrammar.Character.Word

/-!
# Character sets

The sets that one step of a pattern may read, kept as the expression they were
written as.  Membership is by evaluation of the expression.
-/

namespace FieldGrammar
namespace Pattern

/-- The characters that count as letters, digits and blanks. -/
inductive Alphabet where
  | unicode
  | ascii
deriving DecidableEq, Repr

inductive CharSet where
  | any
  | nothing
  | range (low high : Char)
  | whiteSpace
  | decimalDigit
  | word
  | union (a b : CharSet)
  | inter (a b : CharSet)
  | compl (a : CharSet)
  /-- The set with every letter of the alphabet in all of its cases. -/
  | folded (alphabet : Alphabet) (a : CharSet)
deriving DecidableEq, Repr

namespace CharSet

/-!
# Membership
-/

/-- The forms of a character that differ from it in their case only. -/
def caseVariants : Alphabet -> Char -> List Char
  | .unicode, c => Character.caseVariants c
  | .ascii, c => [c.toLower, c.toUpper]

def contains : CharSet -> Char -> Bool
  | any, _ => true
  | nothing, _ => false
  | range low high, c => low.toNat ≤ c.toNat && c.toNat ≤ high.toNat
  | whiteSpace, c => Character.isWhiteSpace c
  | decimalDigit, c => Character.isDecimalDigit c
  | word, c => Character.isWord c
  | union a b, c => a.contains c || b.contains c
  | inter a b, c => a.contains c && b.contains c
  | compl a, c => !a.contains c
  | folded alphabet a, c => (caseVariants alphabet c).any a.contains

/-!
# Derived sets
-/

def single (c : Char) : CharSet :=
  range c c

def diff (a b : CharSet) : CharSet :=
  inter a (compl b)

def symmDiff (a b : CharSet) : CharSet :=
  union (diff a b) (diff b a)

def unionAll : List CharSet -> CharSet
  | [] => nothing
  | [a] => a
  | a :: rest => union a (unionAll rest)

def asciiDigit : CharSet :=
  range '0' '9'

def asciiSpace : CharSet :=
  unionAll [range '\t' '\r', single ' ']

def asciiWord : CharSet :=
  unionAll [range '0' '9', range 'A' 'Z', single '_', range 'a' 'z']

def digits : Alphabet -> CharSet
  | .unicode => decimalDigit
  | .ascii => asciiDigit

def blanks : Alphabet -> CharSet
  | .unicode => whiteSpace
  | .ascii => asciiSpace

def words : Alphabet -> CharSet
  | .unicode => word
  | .ascii => asciiWord

/-- The sets of ASCII characters that have a name. -/
def named? (name : String) : Option CharSet :=
  match name with
  | "alnum" => some (unionAll [range '0' '9', range 'A' 'Z', range 'a' 'z'])
  | "alpha" => some (unionAll [range 'A' 'Z', range 'a' 'z'])
  | "ascii" => some (range '\x00' '\x7f')
  | "blank" => some (unionAll [single '\t', single ' '])
  | "cntrl" => some (unionAll [range '\x00' '\x1f', single '\x7f'])
  | "digit" => some asciiDigit
  | "graph" => some (range '!' '~')
  | "lower" => some (range 'a' 'z')
  | "print" => some (range ' ' '~')
  | "punct" => some (unionAll [range '!' '/', range ':' '@', range '[' '\x60', range '\x7b' '~'])
  | "space" => some asciiSpace
  | "upper" => some (range 'A' 'Z')
  | "word" => some asciiWord
  | "xdigit" => some (unionAll [range '0' '9', range 'A' 'F', range 'a' 'f'])
  | _ => none

end CharSet
end Pattern
end FieldGrammar
