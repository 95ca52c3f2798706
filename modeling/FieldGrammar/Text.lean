/-!
# Texts and byte offsets

A text is worked on as its list of characters, while every offset counts the
bytes of its UTF-8 form.  An offset inside a character is taken back to where
that character starts.
-/

namespace FieldGrammar
namespace Text

/-- Offsets are below 2 ^ 64. -/
def offsetBound : Nat := 18446744073709551616

def byteLength : List Char -> Nat
  | [] => 0
  | c :: rest => c.utf8Size + byteLength rest

@[simp] theorem byteLength_nil : byteLength [] = 0 := rfl

@[simp] theorem byteLength_cons (c : Char) (rest : List Char) :
    byteLength (c :: rest) = c.utf8Size + byteLength rest := rfl

@[simp] theorem byteLength_append (a b : List Char) :
    byteLength (a ++ b) = byteLength a + byteLength b := by
  induction a with
  | nil => simp
  | cons c rest ih => simp [ih, Nat.add_assoc]

/-!
# Cutting at a byte offset

The front is the longest run of whole characters that fits into the given
number of bytes, and the back is what follows it.
-/

def front : Nat -> List Char -> List Char
  | _, [] => []
  | n, c :: rest =>
      if c.utf8Size ≤ n then c :: front (n - c.utf8Size) rest else []

def back : Nat -> List Char -> List Char
  | _, [] => []
  | n, c :: rest =>
      if c.utf8Size ≤ n then back (n - c.utf8Size) rest else c :: rest

/-- The greatest character boundary that is not past the offset. -/
def boundary (n : Nat) (cs : List Char) : Nat :=
  byteLength (front n cs)

theorem front_append_back (n : Nat) (cs : List Char) :
    front n cs ++ back n cs = cs := by
  induction cs generalizing n with
  | nil => rfl
  | cons c rest ih =>
      by_cases h : c.utf8Size ≤ n
      · simp [front, back, h, ih]
      · simp [front, back, h]

/-!
# Digits
-/

def hexValue? (c : Char) : Option Nat :=
  if '0' ≤ c ∧ c ≤ '9' then some (c.toNat - '0'.toNat)
  else if 'a' ≤ c ∧ c ≤ 'f' then some (c.toNat - 'a'.toNat + 10)
  else if 'A' ≤ c ∧ c ≤ 'F' then some (c.toNat - 'A'.toNat + 10)
  else none

/-- The number that a run of decimal digits stands for. -/
def decimalValue (digits : List Char) : Nat :=
  digits.foldl (fun value c => 10 * value + (c.toNat - '0'.toNat)) 0

/-!
# Substrings
-/

def occursIn (part : List Char) : List Char -> Bool
  | [] => part.isEmpty
  | c :: rest => part.isPrefixOf (c :: rest) || occursIn part rest

/-- The text without the white space, as told by the test, at both of its ends. -/
def trim (blank : Char -> Bool) (cs : List Char) : List Char :=
  ((cs.dropWhile blank).reverse.dropWhile blank).reverse

end Text
end FieldGrammar
