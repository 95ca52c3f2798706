import FieldGrammar.Builtin

/-!
# The lexemes of the built-in grammar

What the built-in patterns match, told without patterns: names, comparisons,
numbers, quoted texts and runs of white space.  The first character of a lexeme
tells its kind.
-/

namespace FieldGrammar
namespace Builtin

open Pattern

/-!
# Lexemes
-/

def isNamePart (c : Char) : Bool :=
  c.isAlphanum || c == '_'

def isOperatorStart (c : Char) : Bool :=
  c == '<' || c == '>' || c == '='

/-- An ASCII letter, then ASCII letters, digits and low lines. -/
def IsName (cs : List Char) : Prop :=
  exists first rest, cs = first :: rest ∧ first.isAlpha = true ∧
    forall c, c ∈ rest -> isNamePart c = true

def IsComparison (cs : List Char) : Prop :=
  cs ∈ [['<', '='], ['>', '='], ['='], ['<'], ['>']]

def IsNumber (cs : List Char) : Prop :=
  cs ≠ [] ∧ forall c, c ∈ cs -> c.isDigit = true

/-- Any characters but a double quote, between two double quotes. -/
def IsQuoted (cs : List Char) : Prop :=
  exists inner, cs = '"' :: (inner ++ ['"']) ∧ '"' ∉ inner

def IsValue (cs : List Char) : Prop :=
  IsNumber cs ∨ IsQuoted cs

def IsBlank (cs : List Char) : Prop :=
  forall c, c ∈ cs -> Character.isWhiteSpace c = true

inductive Lexeme : String -> List Char -> Prop where
  | name {cs : List Char} : IsName cs -> Lexeme identifierKind cs
  | comparison {cs : List Char} : IsComparison cs -> Lexeme comparisonKind cs
  | value {cs : List Char} : IsValue cs -> Lexeme valueKind cs
  | blank {cs : List Char} : cs ≠ [] -> IsBlank cs -> Lexeme Token.whitespaceKind cs

/-!
# Character classes

The sets of the patterns hold the characters of the classes above, and no
character is in two of the classes that start a lexeme.
-/

theorem isAlpha_iff_toNat (c : Char) :
    c.isAlpha = true <-> (65 ≤ c.toNat ∧ c.toNat ≤ 90) ∨ (97 ≤ c.toNat ∧ c.toNat ≤ 122) := by
  show (decide (65 ≤ c.val ∧ c.val ≤ 90) ||
    (decide (97 ≤ c.val) && decide (c.val ≤ 122))) = true <-> _
  simp only [Bool.or_eq_true, Bool.and_eq_true, decide_eq_true_eq, UInt32.le_iff_toNat_le]
  exact Iff.rfl

theorem isDigit_iff_toNat (c : Char) : c.isDigit = true <-> 48 ≤ c.toNat ∧ c.toNat ≤ 57 :=
  Char.isDigit_iff_toNat

theorem isOperatorStart_iff_toNat (c : Char) :
    isOperatorStart c = true <-> 60 ≤ c.toNat ∧ c.toNat ≤ 62 := by
  simp only [isOperatorStart, Bool.or_eq_true, beq_iff_eq, ← Char.toNat_inj]
  have hless : '<'.toNat = 60 := rfl
  have hgreater : '>'.toNat = 62 := rfl
  have hequal : '='.toNat = 61 := rfl
  omega

theorem toNat_of_isWhiteSpace {c : Char} (h : Character.isWhiteSpace c = true) :
    c.toNat ≤ 32 ∨ 0x85 ≤ c.toNat := by
  simp only [Character.isWhiteSpace, Character.whiteSpace, Character.RangeTable.contains] at h
  grind

theorem contains_symbol (x c : Char) : (CharSet.range x x).contains c = (c == x) := by
  rw [Bool.eq_iff_iff]
  simp only [CharSet.contains, Bool.and_eq_true, decide_eq_true_eq, beq_iff_eq]
  constructor
  · rintro ⟨hlow, hhigh⟩
    exact Char.toNat_inj.mp (Nat.le_antisymm hhigh hlow)
  · rintro rfl
    exact ⟨Nat.le_refl _, Nat.le_refl _⟩

theorem contains_notSymbol (x c : Char) :
    (CharSet.compl (.range x x)).contains c = !(c == x) := by
  rw [CharSet.contains, contains_symbol]

theorem contains_digit (c : Char) : (CharSet.range '0' '9').contains c = c.isDigit := rfl

theorem contains_letter (c : Char) : letter.contains c = c.isAlpha := by
  rw [Bool.eq_iff_iff, isAlpha_iff_toNat, letter, CharSet.contains, Bool.or_comm]
  simp only [CharSet.contains, Bool.or_eq_true, Bool.and_eq_true, decide_eq_true_eq]
  exact Iff.rfl

theorem contains_identifierPart (c : Char) : identifierPart.contains c = isNamePart c := by
  have hletter : ((CharSet.range 'a' 'z').contains c || (CharSet.range 'A' 'Z').contains c) =
      c.isAlpha := contains_letter c
  show ((CharSet.range 'a' 'z').contains c || ((CharSet.range 'A' 'Z').contains c ||
      ((CharSet.range '0' '9').contains c || (CharSet.range '_' '_').contains c))) =
    ((c.isAlpha || c.isDigit) || c == '_')
  rw [contains_digit, contains_symbol, ← Bool.or_assoc, hletter, ← Bool.or_assoc]

theorem isNamePart_of_isAlpha {c : Char} (h : c.isAlpha = true) : isNamePart c = true := by
  simp [isNamePart, Char.isAlphanum, h]

/-!
# The first character of a lexeme
-/

def kindOf? (c : Char) : Option String :=
  if c.isAlpha then some identifierKind
  else if isOperatorStart c then some comparisonKind
  else if c.isDigit || c == '"' then some valueKind
  else if Character.isWhiteSpace c then some Token.whitespaceKind
  else none

theorem kindOf?_of_alpha {c : Char} (h : c.isAlpha = true) : kindOf? c = some identifierKind :=
  if_pos h

theorem kindOf?_of_operatorStart {c : Char} (h : isOperatorStart c = true) :
    kindOf? c = some comparisonKind := by
  have halpha : ¬ c.isAlpha = true := by
    rw [isOperatorStart_iff_toNat] at h
    rw [isAlpha_iff_toNat]
    omega
  rw [kindOf?, if_neg halpha, if_pos h]

theorem kindOf?_of_digit {c : Char} (h : c.isDigit = true) : kindOf? c = some valueKind := by
  have halpha : ¬ c.isAlpha = true := by
    rw [isDigit_iff_toNat] at h
    rw [isAlpha_iff_toNat]
    omega
  have hoperator : ¬ isOperatorStart c = true := by
    rw [isDigit_iff_toNat] at h
    rw [isOperatorStart_iff_toNat]
    omega
  rw [kindOf?, if_neg halpha, if_neg hoperator, if_pos (by simp [h])]

theorem kindOf?_of_blank {c : Char} (h : Character.isWhiteSpace c = true) :
    kindOf? c = some Token.whitespaceKind := by
  have hcode := toNat_of_isWhiteSpace h
  have halpha : ¬ c.isAlpha = true := by
    rw [isAlpha_iff_toNat]
    omega
  have hoperator : ¬ isOperatorStart c = true := by
    rw [isOperatorStart_iff_toNat]
    omega
  have hvalue : ¬ (c.isDigit || c == '"') = true := by
    have hquote : '"'.toNat = 34 := rfl
    rw [Bool.or_eq_true, isDigit_iff_toNat, beq_iff_eq, ← Char.toNat_inj]
    omega
  rw [kindOf?, if_neg halpha, if_neg hoperator, if_neg hvalue, if_pos h]

theorem lexeme_kindOf? {kind : String} {c : Char} {rest : List Char}
    (h : Lexeme kind (c :: rest)) : kindOf? c = some kind := by
  cases h with
  | name hname =>
      rcases hname with ⟨first, others, heq, halpha, _⟩
      cases heq
      exact kindOf?_of_alpha halpha
  | comparison hcomparison =>
      apply kindOf?_of_operatorStart
      simp only [IsComparison, List.mem_cons, List.not_mem_nil, or_false,
        List.cons.injEq] at hcomparison
      rcases hcomparison with ⟨rfl, _⟩ | ⟨rfl, _⟩ | ⟨rfl, _⟩ | ⟨rfl, _⟩ | ⟨rfl, _⟩ <;> rfl
  | value hvalue =>
      rcases hvalue with ⟨_, hdigits⟩ | ⟨inner, heq, _⟩
      · exact kindOf?_of_digit (hdigits c List.mem_cons_self)
      · cases heq
        rfl
  | blank _ hblank => exact kindOf?_of_blank (hblank c List.mem_cons_self)

theorem lexeme_ne_nil {kind : String} {cs : List Char} (h : Lexeme kind cs) : cs ≠ [] := by
  rintro rfl
  cases h with
  | name hname =>
      rcases hname with ⟨first, others, heq, _⟩
      cases heq
  | comparison hcomparison => simp [IsComparison] at hcomparison
  | value hvalue =>
      rcases hvalue with ⟨hne, _⟩ | ⟨inner, heq, _⟩
      · exact hne rfl
      · cases heq
  | blank hne _ => exact hne rfl

/-- Two lexemes at the front of one text are of the same kind. -/
theorem lexeme_kind_unique {kind other : String} {a b x y : List Char} (ha : Lexeme kind a)
    (hb : Lexeme other b) (heq : a ++ x = b ++ y) : kind = other := by
  cases a with
  | nil => exact absurd rfl (lexeme_ne_nil ha)
  | cons c rest =>
      cases b with
      | nil => exact absurd rfl (lexeme_ne_nil hb)
      | cons d others =>
          cases (List.cons.inj heq).1
          have hkind := lexeme_kindOf? ha
          rw [lexeme_kindOf? hb] at hkind
          exact (Option.some.inj hkind).symm

end Builtin
end FieldGrammar
