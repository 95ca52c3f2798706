import FieldGrammar.Statement

/-!
# Value sources

A value source supplies the candidate values for one kind of field.  It is asked
with the statement that is being edited, the text typed so far and a page of
the answer.
-/

namespace FieldGrammar

inductive LookupError where
  | unavailable (reason : String)
  | cancelled
  | failed (reason : String)
deriving DecidableEq, Repr

namespace LookupError

def message : LookupError -> String
  | unavailable reason => "value source unavailable: " ++ reason
  | cancelled => "lookup cancelled"
  | failed reason => "lookup failed: " ++ reason

end LookupError

/-!
# Pages
-/

/-- A page of a list.  Pages are counted from zero, and a page size of zero asks for everything. -/
def paginate (values : List String) (page pageSize : Nat) : List String :=
  if pageSize = 0 then values
  else (values.drop (min (page * pageSize) (Text.offsetBound - 1))).take pageSize

/-!
# Sources
-/

/-- What a host may do to its suggestion gate while a lookup is under way. -/
inductive Interference where
  | issue
  | invalidate
deriving DecidableEq, Repr

/-- A source that gives one answer to every lookup. -/
structure Script where
  answer : Except LookupError (List String)
  interference : Option Interference

inductive Source where
  /-- A fixed list, of which the values that contain the query are offered. -/
  | listed (values : List String)
  /-- The stem followed by each number up to the last, again by the query. -/
  | numbered (stem : String) (last : Nat)
  /-- The text of the statement's first field followed by each number, in quotes. -/
  | quoted (last : Nat)
  | scripted (script : Script)

namespace Source

def matching (query : String) (values : List String) : List String :=
  values.filter fun value => Text.occursIn query.toList value.toList

def countUpTo (last : Nat) : List Nat :=
  List.range (last + 1)

def numberedValues (stem : String) (last : Nat) : List String :=
  (countUpTo last).map fun i => stem ++ Nat.repr i

def quotedValues (stem : String) (last : Nat) : List String :=
  (countUpTo last).map fun i => "\"" ++ stem ++ Nat.repr i ++ "\""

/-- The text of the first field of the statement, empty when there is none. -/
def stemOf (context : Option Statement) : String :=
  match context.bind Statement.firstField? with
  | none => ""
  | some token => token.text

def lookup (source : Source) (context : Option Statement) (query : String)
    (page pageSize : Nat) : Except LookupError (List String) :=
  match source with
  | listed values => .ok (paginate (matching query values) page pageSize)
  | numbered stem last => .ok (paginate (matching query (numberedValues stem last)) page pageSize)
  | quoted last => .ok (paginate (quotedValues (stemOf context) last) page pageSize)
  | scripted script => script.answer

def interference? : Source -> Option Interference
  | scripted script => script.interference
  | _ => none

end Source
end FieldGrammar
