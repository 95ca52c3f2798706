import FieldGrammar.Character.Alphabetic
import FieldGrammar.Character.DecimalDigit
import FieldGrammar.Character.Mark
import FieldGrammar.Character.OtherNumber

/-!
# Word characters

A word character is alphabetic, a combining mark, a decimal digit, a connector
such as the low line, or a joiner.
-/

namespace FieldGrammar
namespace Character

def connector : RangeTable :=
  [(0x5F, 0x5F), (0x203F, 0x2040), (0x2054, 0x2054), (0xFE33, 0xFE34), (0xFE4D, 0xFE4F),
   (0xFF3F, 0xFF3F)]

def joiner : RangeTable :=
  [(0x200C, 0x200D)]

def isDecimalDigit (c : Char) : Bool :=
  decimalDigit.contains c

def isAlphabetic (c : Char) : Bool :=
  alphabetic.contains c

def isAlphanumeric (c : Char) : Bool :=
  alphabetic.contains c || decimalDigit.contains c || otherNumber.contains c

def isWord (c : Char) : Bool :=
  alphabetic.contains c || decimalDigit.contains c || connector.contains c ||
    mark.contains c || joiner.contains c

end Character
end FieldGrammar
