import FieldGrammar.Pattern.Reader.Bracket
import FieldGrammar.Pattern.Reader.Group

/-!
# Reading patterns

A pattern is read from left to right with the open groups on a stack.  Flags are
in force from where they are set to the end of the group.  What is not a pattern
is refused without a reason.
-/

namespace FieldGrammar
namespace Pattern
namespace Reader

/-- A part of a sequence.  Flag directives are parts too, which cannot be repeated. -/
structure Piece where
  expr : Expr
  depth : Nat
  repeatable : Bool
deriving DecidableEq, Repr

/-- A group that is being read: the alternatives before the current one, and its parts so far. -/
structure Level where
  flags : Flags
  alternatives : List Piece
  pieces : List Piece
deriving DecidableEq, Repr

namespace Level

def start (flags : Flags) : Level :=
  { flags := flags, alternatives := [], pieces := [] }

def push (level : Level) (expr : Expr) (depth : Nat) : Level :=
  { level with pieces := { expr := expr, depth := depth, repeatable := true } :: level.pieces }

/-- Sets flags for the rest of the group. -/
def direct (level : Level) (flags : Flags) : Level :=
  { level with
    flags := flags
    pieces := { expr := .empty, depth := 0, repeatable := false } :: level.pieces }

/-- The pieces as one, built by the given operation if there are several. -/
def join (build : List Expr -> Expr) (pieces : List Piece) : Piece :=
  match pieces with
  | [piece] => piece
  | pieces =>
      { expr := build (pieces.map Piece.expr)
        depth := if pieces.isEmpty then 0 else maxDepth (pieces.map Piece.depth) + 1
        repeatable := true }

def sequence (level : Level) : Piece :=
  join Expr.sequence level.pieces.reverse

/-- Ends the current alternative. -/
def alternate (level : Level) : Level :=
  { level with alternatives := level.sequence :: level.alternatives, pieces := [] }

def whole (level : Level) : Piece :=
  join Expr.choices level.alternate.alternatives.reverse

/-- Repeats the last part. -/
def iterate? (level : Level) (least : Nat) (most : Option Nat) (lazy : Bool) : Option Level :=
  match level.pieces with
  | [] => none
  | piece :: rest =>
      if piece.repeatable then
        let greedy := lazy == level.flags.swapGreed
        some { level with
          pieces :=
            { expr := piece.expr.repeated least most greedy
              depth := piece.depth + 1
              repeatable := true } :: rest }
      else none

def literal (level : Level) (c : Char) : Level :=
  level.push (.read (level.flags.fold (CharSet.single c))) 0

def primitive (level : Level) : Primitive -> Level
  | .literal c => level.literal c
  | .set s => level.push (.read s) 0
  | .look assertion => level.push (.look assertion) 0

def lineStart (level : Level) : Level :=
  let flags := level.flags
  level.push (.look (if flags.multiLine then .lineStart flags.carriageReturns else .textStart)) 0

def lineEnd (level : Level) : Level :=
  let flags := level.flags
  level.push (.look (if flags.multiLine then .lineEnd flags.carriageReturns else .textEnd)) 0

end Level

structure State where
  level : Level
  outer : List Level
  names : List (List Char)
deriving DecidableEq, Repr

namespace State

def start : State :=
  { level := Level.start Flags.default, outer := [], names := [] }

def openGroup (state : State) (flags : Flags) : State :=
  { state with level := Level.start flags, outer := state.level :: state.outer }

def openHead? (state : State) : GroupHead -> Option State
  | .plain => some (state.openGroup state.level.flags)
  | .named name =>
      if state.names.contains name then none
      else some { state.openGroup state.level.flags with names := name :: state.names }
  | .flagged flags => some (state.openGroup flags)
  | .directive flags => some { state with level := state.level.direct flags }

def closeGroup? (state : State) : Option State :=
  match state.outer with
  | [] => none
  | parent :: outer =>
      let inner := state.level.whole
      some { state with level := parent.push inner.expr (inner.depth + 1), outer := outer }

def iterate? (state : State) (least : Nat) (most : Option Nat) (lazy : Bool) : Option State := do
  let level ← state.level.iterate? least most lazy
  some { state with level := level }

/-- A question mark after a repetition makes it prefer to stop. -/
def repetition? (state : State) (least : Nat) (most : Option Nat) (cs : List Char) :
    Option (State × List Char) :=
  match cs with
  | '?' :: rest => do some (← state.iterate? least most true, rest)
  | rest => do some (← state.iterate? least most false, rest)

def update (state : State) (change : Level -> Level) : State :=
  { state with level := change state.level }

/-- Reads one part that starts with the given character. -/
def step? (state : State) (c : Char) (rest : List Char) : Option (State × List Char) :=
  let flags := state.level.flags
  match c with
  | '(' => do
      let (head, rest) ← readGroupHead flags rest
      some (← state.openHead? head, rest)
  | ')' => do some (← state.closeGroup?, rest)
  | '|' => some (state.update Level.alternate, rest)
  | '[' => do
      let (level, rest) := openSet flags rest
      let (item, rest) ← readSet flags (rest.length + 1) level [] rest
      some (state.update (Level.push · (.read item.set) item.depth), rest)
  | '?' => state.repetition? 0 (some 1) rest
  | '*' => state.repetition? 0 none rest
  | '+' => state.repetition? 1 none rest
  | '{' => do
      let ((least, most), rest) ← readCounts flags rest
      state.repetition? least most (flags.skip rest)
  | '\\' => do
      let (primitive, rest) ← readEscape flags rest
      some (state.update (Level.primitive · primitive), rest)
  | '.' => do
      let set ← flags.dot?
      some (state.update (Level.push · (.read set) 0), rest)
  | '^' => some (state.update Level.lineStart, rest)
  | '$' => some (state.update Level.lineEnd, rest)
  | c => some (state.update (Level.literal · c), rest)

def run? : Nat -> State -> List Char -> Option Piece
  | 0, _, _ => none
  | fuel + 1, state, cs =>
      match state.level.flags.skip cs with
      | [] => if state.outer.isEmpty then some state.level.whole else none
      | c :: rest => do
          let (state, rest) ← state.step? c rest
          run? fuel state rest

end State

/-- Groups, sets and repetitions nest this deep at most. -/
def depthLimit : Nat := 250

/-- A pattern has this many steps at most once its repetitions are written out. -/
def weightLimit : Nat := 327680

def readExpr? (cs : List Char) : Option Expr := do
  let piece ← State.start.run? (cs.length + 1) cs
  if piece.depth ≤ depthLimit && piece.expr.weight ≤ weightLimit then some piece.expr else none

end Reader
end Pattern
end FieldGrammar
