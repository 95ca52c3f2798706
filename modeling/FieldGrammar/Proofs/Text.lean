import FieldGrammar.Span

/-!
# Cutting a text at its boundaries

The byte length of a text is the number of bytes of its UTF-8 form.  Where an
offset is the byte length of an initial part of a text, cutting the text there
gives that part and what follows it.
-/

namespace FieldGrammar
namespace Text

theorem byteLength_eq_size_utf8Encode (cs : List Char) :
    byteLength cs = cs.utf8Encode.size := by
  induction cs with
  | nil => simp
  | cons c rest ih =>
      have hchar : [c].utf8Encode.size = c.utf8Size := by
        rw [List.utf8Encode_singleton, List.size_toByteArray, String.length_utf8EncodeChar]
      rw [byteLength_cons, List.utf8Encode_cons, ByteArray.size_append, hchar, ih]

theorem byteLength_toList (text : String) :
    byteLength text.toList = text.utf8ByteSize := by
  rw [byteLength_eq_size_utf8Encode, String.utf8Encode_toList]
  rfl

theorem byteLength_pos {cs : List Char} (h : cs ≠ []) : 0 < byteLength cs := by
  cases cs with
  | nil => exact absurd rfl h
  | cons c rest =>
      rw [byteLength_cons]
      exact Nat.add_pos_left c.utf8Size_pos _

/-- Of two initial parts of one text, the shorter in characters is the shorter in bytes. -/
theorem length_le_iff_byteLength_le {a b x y : List Char} (h : a ++ x = b ++ y) :
    a.length ≤ b.length <-> byteLength a ≤ byteLength b := by
  induction a generalizing b with
  | nil => simp
  | cons c rest ih =>
      cases b with
      | nil =>
          have hpos := c.utf8Size_pos
          simp
          omega
      | cons d others =>
          rw [List.cons_append, List.cons_append, List.cons.injEq] at h
          rcases h with ⟨rfl, hrest⟩
          rw [List.length_cons, List.length_cons, byteLength_cons, byteLength_cons,
            Nat.add_le_add_iff_right, Nat.add_le_add_iff_left]
          exact ih hrest

/-!
# Fronts and backs

No character has zero bytes, so nothing more fits into the front once the bytes
of the initial part are used up.
-/

theorem front_zero (cs : List Char) : front 0 cs = [] := by
  cases cs with
  | nil => rfl
  | cons c rest =>
      have hpos := c.utf8Size_pos
      rw [front, if_neg (by omega)]

theorem front_byteLength_append (a b : List Char) : front (byteLength a) (a ++ b) = a := by
  induction a with
  | nil => exact front_zero b
  | cons c rest ih =>
      rw [List.cons_append, front, byteLength_cons, if_pos (Nat.le_add_right _ _),
        Nat.add_sub_cancel_left, ih]

theorem back_byteLength_append (a b : List Char) : back (byteLength a) (a ++ b) = b := by
  have hcut := front_append_back (byteLength a) (a ++ b)
  rw [front_byteLength_append] at hcut
  exact List.append_cancel_left hcut

theorem boundary_byteLength_append (a b : List Char) :
    boundary (byteLength a) (a ++ b) = byteLength a := by
  rw [boundary, front_byteLength_append]

theorem front_of_le {n : Nat} {cs : List Char} (h : byteLength cs ≤ n) : front n cs = cs := by
  induction cs generalizing n with
  | nil => rfl
  | cons c rest ih =>
      rw [byteLength_cons] at h
      rw [front, if_pos (by omega), ih (by omega)]

theorem back_of_le {n : Nat} {cs : List Char} (h : byteLength cs ≤ n) : back n cs = [] := by
  have hcut := front_append_back n cs
  rw [front_of_le h] at hcut
  exact List.append_right_eq_self.mp hcut

/-!
# Numbers as texts
-/

theorem decimalValue_toDigits (n : Nat) : decimalValue (Nat.toDigits 10 n) = n := by
  rw [decimalValue, ← Nat.ofDigitChars_eq_foldl, Nat.ofDigitChars_ten_toDigits]

theorem eq_of_repr_eq {m n : Nat} (h : Nat.repr m = Nat.repr n) : m = n := by
  rw [Nat.repr_eq_ofList_toDigits, Nat.repr_eq_ofList_toDigits, String.ofList_inj] at h
  rw [← decimalValue_toDigits m, h, decimalValue_toDigits]

end Text

namespace Span

theorem extract_append (a b c : List Char) :
    extract { start := Text.byteLength a, stop := Text.byteLength a + Text.byteLength b }
      (a ++ (b ++ c)) = b := by
  rw [extract, Text.back_byteLength_append, Nat.add_sub_cancel_left,
    Text.front_byteLength_append]

end Span
end FieldGrammar
