/-!
# Range tables

A character property is kept as the list of its code point ranges, both ends
included, in ascending order.  The search stops at the first range that lies
beyond the character.
-/

namespace FieldGrammar
namespace Character

abbrev RangeTable := List (Nat × Nat)

namespace RangeTable

def contains : RangeTable -> Char -> Bool
  | [], _ => false
  | (low, high) :: rest, c =>
      if c.toNat < low then false
      else if c.toNat ≤ high then true
      else contains rest c

end RangeTable

end Character
end FieldGrammar
