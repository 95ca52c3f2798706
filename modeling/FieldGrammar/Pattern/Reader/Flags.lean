import FieldGrammar.Pattern.CharSet

/-!
# Pattern flags

Flags change how the rest of a group is read.  One of them lets blanks and
comments stand in a pattern.
-/

namespace FieldGrammar
namespace Pattern
namespace Reader

structure Flags where
  ignoreCase : Bool
  multiLine : Bool
  dotMatchesNewline : Bool
  swapGreed : Bool
  ignoreSpace : Bool
  carriageReturns : Bool
  alphabet : Alphabet
deriving DecidableEq, Repr

namespace Flags

def default : Flags :=
  { ignoreCase := false
    multiLine := false
    dotMatchesNewline := false
    swapGreed := false
    ignoreSpace := false
    carriageReturns := false
    alphabet := .unicode }

def set? (flags : Flags) (letter : Char) (value : Bool) : Option Flags :=
  match letter with
  | 'i' => some { flags with ignoreCase := value }
  | 'm' => some { flags with multiLine := value }
  | 's' => some { flags with dotMatchesNewline := value }
  | 'U' => some { flags with swapGreed := value }
  | 'x' => some { flags with ignoreSpace := value }
  | 'R' => some { flags with carriageReturns := value }
  | 'u' => some { flags with alphabet := if value then .unicode else .ascii }
  | _ => none

/-!
# Sets under flags

A set is written in the alphabet in force.  In ASCII only characters of ASCII stand
in a set, so what would take in others is refused.
-/

def fold (flags : Flags) (set : CharSet) : CharSet :=
  if flags.ignoreCase then .folded flags.alphabet set else set

def allows (flags : Flags) (c : Char) : Bool :=
  flags.alphabet = .unicode || c.toNat < 128

/-- The set, or its complement. -/
def negate? (flags : Flags) (negated : Bool) (set : CharSet) : Option CharSet :=
  if !negated then some set
  else if flags.alphabet = .unicode then some (.compl set)
  else none

/-- What a dot reads. -/
def dot? (flags : Flags) : Option CharSet :=
  if flags.alphabet = .ascii then none
  else if flags.dotMatchesNewline then some .any
  else if flags.carriageReturns then
    some (.compl (.union (CharSet.single '\n') (CharSet.single '\r')))
  else some (.compl (CharSet.single '\n'))

end Flags

/-!
# Blanks

With the flag for it, white space is skipped, and so is everything from a number
sign to the end of the line.
-/

def skipBlanks : Bool -> List Char -> List Char
  | _, [] => []
  | true, c :: rest => skipBlanks (c != '\n') rest
  | false, c :: rest =>
      if Character.isWhiteSpace c then skipBlanks false rest
      else if c = '#' then skipBlanks true rest
      else c :: rest

def Flags.skip (flags : Flags) (cs : List Char) : List Char :=
  if flags.ignoreSpace then skipBlanks false cs else cs

end Reader
end Pattern
end FieldGrammar
