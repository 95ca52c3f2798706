import FieldGrammar.Text

/-!
# Spans

A span is a range of byte offsets, the end excluded.  Nothing keeps a span that
comes from outside from ending before it starts.
-/

namespace FieldGrammar

/-- Offset arithmetic that leaves the range of offsets. -/
inductive OffsetError where
  | additionOverflow
  | subtractionOverflow
deriving DecidableEq, Repr

namespace OffsetError

def message : OffsetError -> String
  | additionOverflow => "attempt to add with overflow"
  | subtractionOverflow => "attempt to subtract with overflow"

end OffsetError

structure Span where
  start : Nat
  stop : Nat
deriving DecidableEq, Repr

namespace Span

/-- The zero-length span at an offset. -/
def point (offset : Nat) : Span :=
  { start := offset, stop := offset }

instance : Inhabited Span := ⟨point 0⟩

def length? (span : Span) : Except OffsetError Nat :=
  if span.start ≤ span.stop then .ok (span.stop - span.start)
  else .error .subtractionOverflow

def isEmpty (span : Span) : Bool :=
  span.start = span.stop

/-- A caret touches a span at both of its ends. -/
def touches (span : Span) (caret : Nat) : Bool :=
  span.start ≤ caret && caret ≤ span.stop

def merge (a b : Span) : Span :=
  { start := min a.start b.start, stop := max a.stop b.stop }

/-- The part of a text that a span covers. -/
def extract (span : Span) (cs : List Char) : List Char :=
  Text.front (span.stop - span.start) (Text.back span.start cs)

end Span
end FieldGrammar
