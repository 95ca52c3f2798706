import FieldGrammar.Character.Word
import FieldGrammar.Pattern.Reader.Flags

/-!
# Counts and groups in patterns

The numbers in a counted repetition, and what follows the opening bracket of a
group.
-/

namespace FieldGrammar
namespace Pattern
namespace Reader

/-!
# Counts

A count is below 2 ^ 32 and may have white space around it.
-/

def countBound : Nat := 4294967296

def readDigits (flags : Flags) : Nat -> Option Nat -> List Char -> Option Nat × List Char
  | fuel + 1, value, c :: rest =>
      if c.isDigit then
        readDigits flags fuel (some (10 * value.getD 0 + (c.toNat - '0'.toNat))) (flags.skip rest)
      else (value, c :: rest)
  | _, value, cs => (value, cs)

/-- A count, if there is one, and what follows it. -/
def readCount (flags : Flags) (cs : List Char) : Option (Option Nat × List Char) :=
  let cs := cs.dropWhile Character.isWhiteSpace
  let (value, rest) := readDigits flags cs.length none cs
  let rest := flags.skip (rest.dropWhile Character.isWhiteSpace)
  match value with
  | none => some (none, rest)
  | some n => if n < countBound then some (some n, rest) else none

/-- The least and the greatest number of passes, after the opening brace. -/
def readCounts (flags : Flags) (cs : List Char) : Option ((Nat × Option Nat) × List Char) := do
  let (first, rest) ← readCount flags (flags.skip cs)
  let least ← first
  match rest with
  | '}' :: rest => some ((least, some least), rest)
  | ',' :: rest =>
      match flags.skip rest with
      | '}' :: rest => some ((least, none), rest)
      | rest =>
          let (second, rest) ← readCount flags rest
          let most ← second
          match rest with
          | '}' :: rest => if least ≤ most then some ((least, some most), rest) else none
          | _ => none
  | _ => none

/-!
# Groups

The head of a group names it, sets flags for it, or sets flags for the rest of
the group around it.
-/

inductive GroupHead where
  | plain
  | named (name : List Char)
  | flagged (flags : Flags)
  | directive (flags : Flags)
deriving DecidableEq, Repr

/-- Flag letters, up to the colon or the bracket that ends them. -/
def readFlags (flags : Flags) (seen : List Char) (negated dangling : Bool) :
    List Char -> Option (GroupHead × List Char)
  | [] => none
  | c :: rest =>
      if c = ':' then
        if dangling then none else some (.flagged flags, rest)
      else if c = ')' then
        if dangling || seen.isEmpty then none else some (.directive flags, rest)
      else if c = '-' then
        if negated then none else readFlags flags seen true true rest
      else if seen.contains c then none
      else
        match flags.set? c (!negated) with
        | none => none
        | some flags => readFlags flags (c :: seen) negated false rest

def isNameChar (first : Bool) (c : Char) : Bool :=
  if first then c = '_' || Character.isAlphabetic c
  else c = '_' || c = '.' || c = '[' || c = ']' || Character.isAlphanumeric c

/-- The name of a group, up to its closing bracket. -/
def readName (first : Bool) : List Char -> Option (List Char × List Char)
  | [] => none
  | c :: rest =>
      if c = '>' then
        if first then none else some ([], rest)
      else if isNameChar first c then do
        let (name, rest) ← readName false rest
        some (c :: name, rest)
      else none

def readNamed (cs : List Char) : Option (GroupHead × List Char) := do
  let (name, rest) ← readName true cs
  some (.named name, rest)

/-- The head of a group, after its bracket. -/
def readGroupHead (flags : Flags) (cs : List Char) : Option (GroupHead × List Char) :=
  match flags.skip cs with
  | '?' :: '=' :: _ => none
  | '?' :: '!' :: _ => none
  | '?' :: '<' :: '=' :: _ => none
  | '?' :: '<' :: '!' :: _ => none
  | '?' :: 'P' :: '<' :: rest => readNamed rest
  | '?' :: '<' :: rest => readNamed rest
  | '?' :: rest => readFlags flags [] false false rest
  | rest => some (.plain, rest)

end Reader
end Pattern
end FieldGrammar
