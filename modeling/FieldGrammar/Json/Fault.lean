/-!
# Faults of a JSON text

What can be wrong at the first place where a JSON text cannot be read as the
value that is asked for.
-/

namespace FieldGrammar
namespace Json

inductive Fault where
  /-- The text ends inside a value. -/
  | unexpectedEnd
  /-- The text is not JSON here. -/
  | malformed
  /-- The text is JSON so far, but not of the shape asked for. -/
  | unsuitable
deriving DecidableEq, Repr

end Json
end FieldGrammar
