import Mathlib.Tactic.SplitIfs
import FieldGrammar.Json.Printer
import FieldGrammar.Json.Scalar

/-!
# Strings and numbers read back

A written string ends with the first quote that is not escaped, so whatever follows
it is left as it is.  A written natural number ends with its last digit, provided
that what follows cannot be read as more of the number.
-/

namespace FieldGrammar
namespace Json

/-- A reader goes on with what the one before it has read. -/
@[simp] theorem ok_bind {α β : Type} (value : α) (next : α -> Except Fault β) :
    (Except.ok value >>= next) = next value :=
  rfl

/-!
# Blanks
-/

theorem isBlank_of_isDigit {c : Char} (h : c.isDigit = true) : isBlank c = false := by
  have hall : forall blank, blank ∈ [' ', '\t', '\n', '\r'] -> c ≠ blank := by
    intro blank hblank hsame
    subst hsame
    simp only [List.mem_cons, List.not_mem_nil, or_false] at hblank
    rcases hblank with rfl | rfl | rfl | rfl <;> cases h
  simp [isBlank, hall]

def Blank (cs : List Char) : Prop :=
  forall c, c ∈ cs -> isBlank c = true

theorem blank_nil : Blank [] := by
  intro c hc
  cases hc

theorem skipBlanks_append {gap : List Char} (h : Blank gap) (rest : List Char) :
    skipBlanks (gap ++ rest) = skipBlanks rest :=
  List.dropWhile_append_of_pos h

theorem skipBlanks_blank {gap : List Char} (h : Blank gap) : skipBlanks gap = [] := by
  have hskip := skipBlanks_append h []
  rwa [List.append_nil] at hskip

theorem skipBlanks_cons {c : Char} (h : isBlank c = false) (rest : List Char) :
    skipBlanks (c :: rest) = c :: rest :=
  List.dropWhile_cons_of_neg (by simp [h])

theorem skipBlanks_gap {gap : List Char} {c : Char} (hgap : Blank gap) (h : isBlank c = false)
    (rest : List Char) : skipBlanks (gap ++ c :: rest) = c :: rest := by
  rw [skipBlanks_append hgap, skipBlanks_cons h]

/-!
# Strings

A character of a string is written in one of three ways: by a letter that stands for
it, by its code point, or as it is.
-/

theorem escapeChar_cases (c : Char) :
    (exists letter, escapeChar c = ['\\', letter] ∧ letter ≠ 'u' ∧
        simpleEscape? letter = some c) ∨
      (escapeChar c =
          ['\\', 'u', '0', '0', lowerHexDigit (c.toNat / 16), lowerHexDigit (c.toNat % 16)] ∧
        c.toNat < 0x20) ∨
      (escapeChar c = [c] ∧ c ≠ '"' ∧ c ≠ '\\' ∧ isControl c = false) := by
  unfold escapeChar
  split_ifs with hquote hslash hback htab hline hfeed hreturn hcontrol
  · exact Or.inl ⟨'"', rfl, by decide, congrArg some hquote.symm⟩
  · exact Or.inl ⟨'\\', rfl, by decide, congrArg some hslash.symm⟩
  · exact Or.inl ⟨'b', rfl, by decide, congrArg some hback.symm⟩
  · exact Or.inl ⟨'t', rfl, by decide, congrArg some htab.symm⟩
  · exact Or.inl ⟨'n', rfl, by decide, congrArg some hline.symm⟩
  · exact Or.inl ⟨'f', rfl, by decide, congrArg some hfeed.symm⟩
  · exact Or.inl ⟨'r', rfl, by decide, congrArg some hreturn.symm⟩
  · exact Or.inr (Or.inl ⟨rfl, hcontrol⟩)
  · exact Or.inr (Or.inr ⟨rfl, hquote, hslash, decide_eq_false hcontrol⟩)

theorem hexValue?_lowerHexDigit {n : Nat} (h : n < 16) :
    Text.hexValue? (lowerHexDigit n) = some n := by
  have hall : forall m, m < 16 -> Text.hexValue? (Nat.digitChar m) = some m := by decide
  exact hall n h

/-- A code point below 32 takes two digits. -/
theorem readCodePoint_control {c : Char} (h : c.toNat < 0x20) (rest : List Char) :
    readCodePoint
        ('0' :: '0' :: lowerHexDigit (c.toNat / 16) :: lowerHexDigit (c.toNat % 16) :: rest) =
      .ok (c, rest) := by
  have hhigh := hexValue?_lowerHexDigit (n := c.toNat / 16) (by omega)
  have hlow := hexValue?_lowerHexDigit (n := c.toNat % 16) (by omega)
  have hzero : Text.hexValue? '0' = some 0 := by decide
  have hvalue : ((0 * 16 + 0) * 16 + c.toNat / 16) * 16 + c.toNat % 16 = c.toNat := by omega
  have hleading : isLeadingSurrogate c.toNat = false := by
    simp [isLeadingSurrogate]
    omega
  have htrailing : isTrailingSurrogate c.toNat = false := by
    simp [isTrailingSurrogate]
    omega
  simp only [readCodePoint, readHex, hhigh, hlow, hzero, hvalue]
  simp [hleading, htrailing, Char.ofNat_toNat]

/-- Reading on after a character that is written in a string. -/
theorem readChars_escapeChar {fuel : Nat} {c : Char} {cs more rest : List Char}
    (h : readChars fuel cs = .ok (more, rest)) :
    readChars (fuel + 1) (escapeChar c ++ cs) = .ok (c :: more, rest) := by
  rcases escapeChar_cases c with ⟨letter, hwritten, hletter, hsimple⟩ | ⟨hwritten, hcontrol⟩ |
    ⟨hwritten, hquote, hslash, hplain⟩
  · rw [hwritten]
    simp [readChars, readEscape, hletter, hsimple, h]
  · rw [hwritten]
    simp [readChars, readEscape, readCodePoint_control hcontrol, h]
  · rw [hwritten]
    simp [readChars, hquote, hslash, hplain, h]

theorem readChars_written {text : List Char} {fuel : Nat} (h : text.length < fuel)
    (rest : List Char) :
    readChars fuel (text.flatMap escapeChar ++ '"' :: rest) = .ok (text, rest) := by
  induction text generalizing fuel with
  | nil =>
      cases fuel with
      | zero => cases h
      | succ fuel => rfl
  | cons c others ih =>
      cases fuel with
      | zero => cases h
      | succ fuel =>
          rw [List.flatMap_cons, List.append_assoc]
          exact readChars_escapeChar (ih (Nat.lt_of_succ_lt_succ h))

theorem length_le_flatMap_escapeChar (text : List Char) :
    text.length ≤ (text.flatMap escapeChar).length := by
  induction text with
  | nil => exact Nat.le_refl 0
  | cons c others ih =>
      have hpos : 0 < (escapeChar c).length := by
        rcases escapeChar_cases c with ⟨_, hwritten, _⟩ | ⟨hwritten, _⟩ | ⟨hwritten, _⟩ <;>
          simp [hwritten]
      rw [List.flatMap_cons, List.length_append, List.length_cons]
      omega

theorem readString_written (text : String) (rest : List Char) :
    readString (text.toList.flatMap escapeChar ++ '"' :: rest) = .ok (text, rest) := by
  have hle := length_le_flatMap_escapeChar text.toList
  have hlt : text.toList.length <
      (text.toList.flatMap escapeChar ++ '"' :: rest).length + 1 := by
    rw [List.length_append]
    omega
  simp only [readString, readChars_written hlt, ok_bind, String.ofList_toList]

theorem writeString_append (text : String) (rest : List Char) :
    writeString text ++ rest = '"' :: (text.toList.flatMap escapeChar ++ '"' :: rest) := by
  simp [writeString]

/-!
# Numbers
-/

/-- What follows cannot be read as more of a number. -/
def EndsNumber (rest : List Char) : Prop :=
  forall c others, rest = c :: others ->
    c.isDigit = false ∧ c ≠ '.' ∧ c ≠ 'e' ∧ c ≠ 'E'

theorem endsNumber_nil : EndsNumber [] := by
  intro c others h
  cases h

theorem endsNumber_cons {c : Char} (h : c.isDigit = false ∧ c ≠ '.' ∧ c ≠ 'e' ∧ c ≠ 'E')
    (others : List Char) : EndsNumber (c :: others) := by
  intro first rest hsplit
  cases hsplit
  exact h

theorem toDigits_isDigit (n : Nat) : forall c, c ∈ Nat.toDigits 10 n -> c.isDigit = true :=
  fun _ => Nat.isDigit_of_mem_toDigits (by decide) (by decide)

theorem toDigits_cons (n : Nat) :
    exists c others, Nat.toDigits 10 n = c :: others ∧ c.isDigit = true := by
  have hall := toDigits_isDigit n
  rcases List.exists_cons_of_ne_nil (Nat.toDigits_ne_nil (n := n) (b := 10)) with
    ⟨c, others, hdigits⟩
  rw [hdigits] at hall
  exact ⟨c, others, hdigits, hall c List.mem_cons_self⟩

/-- Only zero is written with a zero in front. -/
theorem toDigits_head {n : Nat} (h : 0 < n) :
    exists c others, Nat.toDigits 10 n = c :: others ∧ c ≠ '0' := by
  induction n using Nat.strongRecOn with
  | ind n ih =>
      by_cases hlt : n < 10
      · refine ⟨n.digitChar, [], Nat.toDigits_of_lt_base hlt, ?_⟩
        rw [Ne, Nat.digitChar_eq_zero]
        omega
      · rcases ih (n / 10) (by omega) (by omega) with ⟨c, others, hdigits, hc⟩
        refine ⟨c, others ++ [(n % 10).digitChar], ?_, hc⟩
        rw [Nat.toDigits_of_base_le (by decide) (by omega), hdigits]
        rfl

theorem takeWhile_digits {digits rest : List Char}
    (hdigits : forall c, c ∈ digits -> c.isDigit = true) (hrest : EndsNumber rest) :
    (digits ++ rest).takeWhile Char.isDigit = digits ∧
      (digits ++ rest).dropWhile Char.isDigit = rest := by
  rw [List.takeWhile_append_of_pos hdigits, List.dropWhile_append_of_pos hdigits]
  cases rest with
  | nil => simp
  | cons c others => simp [(hrest c others rfl).1]

theorem readWhole_toDigits (n : Nat) {rest : List Char} (hrest : EndsNumber rest) :
    readWhole (Nat.toDigits 10 n ++ rest) = .ok (Nat.toDigits 10 n, rest) := by
  rcases Nat.eq_zero_or_pos n with rfl | hpos
  · cases rest with
    | nil => rfl
    | cons c others => simp [readWhole, (hrest c others rfl).1]
  · rcases toDigits_head hpos with ⟨c, others, hdigits, hc⟩
    have hall := toDigits_isDigit n
    rw [hdigits, List.forall_mem_cons] at hall
    rcases takeWhile_digits hall.2 hrest with ⟨htake, hdrop⟩
    simp [hdigits, readWhole, hc, hall.1, htake, hdrop]

theorem readFraction_ends {rest : List Char} (hrest : EndsNumber rest) :
    readFraction rest = .ok ([], rest) := by
  unfold readFraction
  split
  · exact absurd rfl (hrest _ _ rfl).2.1
  · rfl

theorem readExponent_ends {rest : List Char} (hrest : EndsNumber rest) :
    readExponent rest = .ok (0, rest) := by
  cases rest with
  | nil => rfl
  | cons c others =>
      have hc := (hrest c others rfl).2.2
      simp [readExponent, hc]

theorem readNumber_toDigits (n : Nat) {rest : List Char} (hrest : EndsNumber rest) :
    readNumber (Nat.toDigits 10 n ++ rest) =
      .ok ({ whole := Nat.toDigits 10 n, fraction := [], exponent := 0 }, rest) := by
  simp [readNumber, readWhole_toDigits n hrest, readFraction_ends hrest, readExponent_ends hrest]

end Json
end FieldGrammar
