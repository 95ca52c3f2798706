import FieldGrammar.Character.GraphemeExtend
import FieldGrammar.Character.Unprintable

/-!
# Printable characters

A character is printable when it has a shape of its own and does not merge with
the character before it.
-/

namespace FieldGrammar
namespace Character

def isPrintable (c : Char) : Bool :=
  !unprintable.contains c && !graphemeExtend.contains c

end Character
end FieldGrammar
