import FieldGrammar.Pattern.CharSet

/-!
# Pattern expressions

The form in which a pattern is matched.  Groups and flags are resolved when the
pattern is read, so what is left is reading a character, looking around,
sequence, ordered choice and repetition.
-/

namespace FieldGrammar
namespace Pattern

/-!
# Assertions

An assertion reads nothing.  It looks at the characters on both sides of the
place where it stands, `none` being the end of the text.  A line ends with a line
feed, and where carriage returns count, also with one of them or with both.
-/

inductive Assertion where
  | textStart
  | textEnd
  | lineStart (carriageReturns : Bool)
  | lineEnd (carriageReturns : Bool)
  | wordBoundary (alphabet : Alphabet)
  | noWordBoundary (alphabet : Alphabet)
  | wordStart (alphabet : Alphabet)
  | wordEnd (alphabet : Alphabet)
  | wordStartHalf (alphabet : Alphabet)
  | wordEndHalf (alphabet : Alphabet)
deriving DecidableEq, Repr

namespace Assertion

def isWordSide (alphabet : Alphabet) : Option Char -> Bool
  | none => false
  | some c => (CharSet.words alphabet).contains c

def startsLine (carriageReturns : Bool) (before after : Option Char) : Bool :=
  before.isNone || before == some '\n' ||
    carriageReturns && before == some '\r' && after != some '\n'

def endsLine (carriageReturns : Bool) (before after : Option Char) : Bool :=
  after.isNone || carriageReturns && after == some '\r' ||
    after == some '\n' && !(carriageReturns && before == some '\r')

def holds (before after : Option Char) : Assertion -> Bool
  | textStart => before.isNone
  | textEnd => after.isNone
  | lineStart carriageReturns => startsLine carriageReturns before after
  | lineEnd carriageReturns => endsLine carriageReturns before after
  | wordBoundary alphabet => isWordSide alphabet before != isWordSide alphabet after
  | noWordBoundary alphabet => isWordSide alphabet before == isWordSide alphabet after
  | wordStart alphabet => !isWordSide alphabet before && isWordSide alphabet after
  | wordEnd alphabet => isWordSide alphabet before && !isWordSide alphabet after
  | wordStartHalf alphabet => !isWordSide alphabet before
  | wordEndHalf alphabet => !isWordSide alphabet after

end Assertion

/-!
# Expressions

In a choice the first alternative is preferred.  A greedy repetition prefers to
go on, any other prefers to stop.
-/

inductive Expr where
  | empty
  | read (set : CharSet)
  | look (assertion : Assertion)
  | seq (first second : Expr)
  | choice (preferred other : Expr)
  | times (body : Expr) (least : Nat) (most : Option Nat) (greedy : Bool)
deriving DecidableEq, Repr

namespace Expr

def sequence : List Expr -> Expr
  | [] => empty
  | [e] => e
  | e :: rest => seq e (sequence rest)

def choices : List Expr -> Expr
  | [] => empty
  | [e] => e
  | e :: rest => choice e (choices rest)

/-- Whether the expression can only match the empty text. -/
def readsNothing : Expr -> Bool
  | empty => true
  | read _ => false
  | look _ => true
  | seq a b => a.readsNothing && b.readsNothing
  | choice a b => a.readsNothing && b.readsNothing
  | times body _ most _ => body.readsNothing || most == some 0

/-- Whether the expression reads a character in each of its matches. -/
def alwaysReads : Expr -> Bool
  | empty => false
  | read _ => true
  | look _ => false
  | seq a b => a.alwaysReads || b.alwaysReads
  | choice a b => a.alwaysReads && b.alwaysReads
  | times body least _ _ => least != 0 && body.alwaysReads

/-- A repetition.  One pass is enough over a body that reads nothing. -/
def repeated (body : Expr) (least : Nat) (most : Option Nat) (greedy : Bool) : Expr :=
  if body.readsNothing then
    times body (min least 1) (some (min (most.getD 1) 1)) greedy
  else times body least most greedy

/-!
# Sizes

The weight is the number of steps that read a character or look around once
every repetition is written out.  The points are the places at which a match of
the expression can stand.
-/

def weight : Expr -> Nat
  | empty => 0
  | read _ => 1
  | look _ => 1
  | seq a b => a.weight + b.weight
  | choice a b => a.weight + b.weight + 1
  | times body least none _ => max least 1 * body.weight + 1
  | times body least (some most) _ => most * body.weight + (most - least)

def points : Expr -> Nat
  | empty => 1
  | read _ => 1
  | look _ => 1
  | seq a b => a.points + b.points + 1
  | choice a b => a.points + b.points + 1
  | times body least none _ => (least + 1) * (body.points + 2) + 1
  | times body _ (some most) _ => most * (body.points + 1) + 1

end Expr
end Pattern
end FieldGrammar
