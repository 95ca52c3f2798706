import FieldGrammar.Suggestion

/-!
# The suggestion gate

Lookups take time, and only the answer to the latest one is wanted.  The gate
counts generations: every lookup starts a new one and holds its ticket, and an
answer passes only while its ticket is current.
-/

namespace FieldGrammar

structure Ticket where
  generation : UInt64
deriving DecidableEq, Repr

structure Gate where
  generation : UInt64
deriving DecidableEq, Repr

namespace Gate

def start : Gate :=
  { generation := 0 }

/-- Starts a generation; every earlier ticket becomes stale. -/
def invalidate (gate : Gate) : Gate :=
  { generation := gate.generation + 1 }

def issue (gate : Gate) : Ticket × Gate :=
  ({ generation := gate.generation + 1 }, gate.invalidate)

def isCurrent (gate : Gate) (ticket : Ticket) : Bool :=
  gate.generation == ticket.generation

/-- The gate after what a host did to it. -/
def disturb (gate : Gate) : Option Interference -> Gate
  | none => gate
  | some .issue => gate.issue.2
  | some .invalidate => gate.invalidate

/-- The gate after a lookup, which may disturb it. -/
def afterLookup (gate : Gate) (request : Request) : Gate :=
  gate.disturb request.rule.interference?

/-- The end of a lookup: its answer, if the ticket is still current. -/
def finish (gate : Gate) (ticket : Ticket) (answer : α) : Option α :=
  if gate.isCurrent ticket then some answer else none

/-- A lookup through the gate: take a ticket, ask, and deliver while it is current. -/
def fetch (gate : Gate) (request : Request) (page pageSize : Nat) :
    Option (Except LookupError (List String)) × Gate :=
  let (ticket, gate) := gate.issue
  let answer := request.fetch page pageSize
  let gate := gate.afterLookup request
  (gate.finish ticket answer, gate)

end Gate
end FieldGrammar
