import FieldGrammar.Character.RangeTable

/-!
# White space

The Unicode property White_Space.  The Mongolian vowel separator, the zero width
space, the byte order mark and the unit separator do not have it.
-/

namespace FieldGrammar
namespace Character

def whiteSpace : RangeTable :=
  [(0x9, 0xD), (0x20, 0x20), (0x85, 0x85), (0xA0, 0xA0), (0x1680, 0x1680), (0x2000, 0x200A),
   (0x2028, 0x2029), (0x202F, 0x202F), (0x205F, 0x205F), (0x3000, 0x3000)]

def isWhiteSpace (c : Char) : Bool :=
  whiteSpace.contains c

end Character
end FieldGrammar
