import FieldGrammar.Pattern.Reader.Escape

/-!
# Bracketed sets in patterns

A bracketed set is a union of items, which may be combined with another union by
an operator.  Operators have one precedence and group to the left.  Sets nest,
and the open ones are on a stack.
-/

namespace FieldGrammar
namespace Pattern
namespace Reader

inductive SetOperator where
  | intersection
  | difference
  | symmetricDifference
deriving DecidableEq, Repr

/-- A set that was read, with the depth of its nesting. -/
structure SetItem where
  set : CharSet
  depth : Nat
deriving DecidableEq, Repr

/-- An open bracket: the left operand that waits for the current union, and its items so far. -/
structure SetLevel where
  negated : Bool
  operand : Option (SetItem × SetOperator)
  items : List SetItem
deriving DecidableEq, Repr

def maxDepth (depths : List Nat) : Nat :=
  depths.foldl max 0

namespace SetLevel

def push (level : SetLevel) (item : SetItem) : SetLevel :=
  { level with items := item :: level.items }

/-- The current union as one item. -/
def unionItem (level : SetLevel) : SetItem :=
  match level.items with
  | [] => { set := .nothing, depth := 0 }
  | [item] => item
  | items =>
      { set := CharSet.unionAll (items.reverse.map SetItem.set)
        depth := maxDepth (items.map SetItem.depth) + 1 }

/-- The current union joined with the operand before it. -/
def operandItem (flags : Flags) (level : SetLevel) : SetItem :=
  let right := level.unionItem
  match level.operand with
  | none => right
  | some (left, operator) =>
      let a := flags.fold left.set
      let b := flags.fold right.set
      let set :=
        match operator with
        | .intersection => CharSet.inter a b
        | .difference => CharSet.diff a b
        | .symmetricDifference => CharSet.symmDiff a b
      { set := set, depth := max left.depth right.depth + 1 }

def operate (flags : Flags) (operator : SetOperator) (level : SetLevel) : SetLevel :=
  { level with operand := some (level.operandItem flags, operator), items := [] }

/-- The set when its bracket is closed. -/
def close? (flags : Flags) (level : SetLevel) : Option SetItem := do
  let inner := level.operandItem flags
  let set ← flags.negate? level.negated (flags.fold inner.set)
  some { set := set, depth := inner.depth + 1 }

end SetLevel

/-- Dashes at the start of a bracketed set stand for themselves. -/
def readDashes (flags : Flags) : Nat -> List Char -> Nat × List Char
  | fuel + 1, '-' :: rest =>
      let (count, rest) := readDashes flags fuel (flags.skip rest)
      (count + 1, rest)
  | _, cs => (0, cs)

/-- The start of a bracketed set, after its bracket. -/
def openSet (flags : Flags) (cs : List Char) : SetLevel × List Char :=
  let (negated, cs) :=
    match flags.skip cs with
    | '^' :: rest => (true, flags.skip rest)
    | rest => (false, rest)
  let (dashes, cs) := readDashes flags cs.length cs
  let dash : SetItem := { set := CharSet.single '-', depth := 0 }
  let level : SetLevel :=
    { negated := negated, operand := none, items := List.replicate dashes dash }
  match dashes, cs with
  | 0, ']' :: rest => (level.push { set := CharSet.single ']', depth := 0 }, flags.skip rest)
  | _, cs => (level, cs)

/--
A named set, after its bracket: a colon, perhaps a caret, the name, a colon and a bracket.
It is given with whether its complement is meant.
-/
def readNamedSet? (cs : List Char) : Option ((Bool × CharSet) × List Char) :=
  match cs with
  | ':' :: inner =>
      let (negated, inner) :=
        match inner with
        | '^' :: rest => (true, rest)
        | rest => (false, rest)
      let name := inner.takeWhile (· != ':')
      match inner.dropWhile (· != ':') with
      | ':' :: ']' :: rest => do
          let set ← CharSet.named? (String.ofList name)
          some ((negated, set), rest)
      | _ => none
  | _ => none

def readSetPrimitive (flags : Flags) : List Char -> Option (Primitive × List Char)
  | [] => none
  | '\\' :: rest => readEscape flags rest
  | c :: rest => some (.literal c, rest)

def Primitive.setItem? (flags : Flags) : Primitive -> Option SetItem
  | .literal c =>
      if flags.allows c then some { set := CharSet.single c, depth := 0 } else none
  | .set s => some { set := s, depth := 0 }
  | .look _ => none

/-- The next character that is no blank; a number sign is passed over with its blanks. -/
def peek (flags : Flags) (cs : List Char) : Option Char :=
  if flags.ignoreSpace then
    match cs.dropWhile Character.isWhiteSpace with
    | '#' :: rest => (rest.dropWhile Character.isWhiteSpace).head?
    | rest => rest.head?
  else cs.head?

/-- A single item or a range.  A dash before a bracket or another dash makes no range. -/
def readSetItem (flags : Flags) (cs : List Char) : Option (SetItem × List Char) := do
  let (first, rest) ← readSetPrimitive flags cs
  match flags.skip rest with
  | [] => none
  | '-' :: rest =>
      if peek flags rest = some ']' || peek flags rest = some '-' then
        let item ← first.setItem? flags
        some (item, '-' :: rest)
      else
        let (last, rest) ← readSetPrimitive flags (flags.skip rest)
        match first, last with
        | .literal low, .literal high =>
            if low ≤ high && flags.allows high then
              some ({ set := .range low high, depth := 0 }, rest)
            else none
        | _, _ => none
  | rest => do
      let item ← first.setItem? flags
      some (item, rest)

/-- The rest of a bracketed set, with the sets around it. -/
def readSet (flags : Flags) :
    Nat -> SetLevel -> List SetLevel -> List Char -> Option (SetItem × List Char)
  | 0, _, _, _ => none
  | fuel + 1, level, outer, cs =>
      match flags.skip cs with
      | [] => none
      | '[' :: rest =>
          match readNamedSet? rest with
          | some ((negated, set), rest) => do
              let set ← flags.negate? negated (flags.fold set)
              readSet flags fuel (level.push { set := set, depth := 0 }) outer rest
          | none =>
              let (inner, rest) := openSet flags rest
              readSet flags fuel inner (level :: outer) rest
      | ']' :: rest => do
          let item ← level.close? flags
          match outer with
          | [] => some (item, rest)
          | parent :: outer => readSet flags fuel (parent.push item) outer rest
      | '&' :: '&' :: rest => readSet flags fuel (level.operate flags .intersection) outer rest
      | '-' :: '-' :: rest => readSet flags fuel (level.operate flags .difference) outer rest
      | '~' :: '~' :: rest =>
          readSet flags fuel (level.operate flags .symmetricDifference) outer rest
      | cs => do
          let (item, rest) ← readSetItem flags cs
          readSet flags fuel (level.push item) outer rest

end Reader
end Pattern
end FieldGrammar
