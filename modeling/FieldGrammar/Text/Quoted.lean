import FieldGrammar.Character.Printable

/-!
# Quoted texts

A text is shown to the user between double quotes.  Quotes and backslashes are
escaped, the common controls have a letter, and any other character that cannot
be seen is written as its code point in hexadecimal.
-/

namespace FieldGrammar
namespace Text

def hexDigits (n : Nat) : List Char :=
  Nat.toDigits 16 n

def quotedChar (c : Char) : List Char :=
  if c = '"' then ['\\', '"']
  else if c = '\\' then ['\\', '\\']
  else if c = '\t' then ['\\', 't']
  else if c = '\r' then ['\\', 'r']
  else if c = '\n' then ['\\', 'n']
  else if c.toNat = 0 then ['\\', '0']
  else if Character.isPrintable c then [c]
  else ['\\', 'u', '{'] ++ hexDigits c.toNat ++ ['}']

def quoted (text : String) : String :=
  String.ofList (['"'] ++ text.toList.flatMap quotedChar ++ ['"'])

end Text
end FieldGrammar
