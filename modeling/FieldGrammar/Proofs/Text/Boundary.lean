import Mathlib.Order.Bounds.Basic
import FieldGrammar.Proofs.Text

/-!
# Boundaries of a text

A boundary is a byte offset at which the text can be cut in two.  An offset that is
taken back to where its character starts is taken to the greatest boundary that is
not past it.
-/

namespace FieldGrammar
namespace Text

/-- A character of the text starts at the byte offset, or the text ends there. -/
def IsBoundary (text : String) (offset : Nat) : Prop :=
  String.Pos.Raw.IsValid text ⟨offset⟩

instance (text : String) (offset : Nat) : Decidable (IsBoundary text offset) :=
  inferInstanceAs (Decidable (String.Pos.Raw.IsValid text ⟨offset⟩))

theorem isBoundary_iff {text : String} {offset : Nat} :
    IsBoundary text offset <->
      exists before after, text = before ++ after ∧ before.utf8ByteSize = offset := by
  rw [IsBoundary, String.Pos.Raw.isValid_iff_exists_append]
  simp only [String.Pos.Raw.ext_iff, String.byteIdx_rawEndPos]
  constructor
  · rintro ⟨before, after, htext, hoffset⟩
    exact ⟨before, after, htext, hoffset.symm⟩
  · rintro ⟨before, after, htext, hoffset⟩
    exact ⟨before, after, htext, hoffset.symm⟩

theorem isBoundary_append (before after : String) :
    IsBoundary (before ++ after) before.utf8ByteSize :=
  isBoundary_iff.mpr ⟨before, after, rfl, rfl⟩

theorem IsBoundary.le {text : String} {offset : Nat} (h : IsBoundary text offset) :
    offset ≤ text.utf8ByteSize := by
  rcases isBoundary_iff.mp h with ⟨before, after, rfl, rfl⟩
  rw [String.utf8ByteSize_append]
  exact Nat.le_add_right _ _

theorem IsBoundary.max {text : String} {a b : Nat} (ha : IsBoundary text a)
    (hb : IsBoundary text b) : IsBoundary text (max a b) := by
  rcases Nat.le_total a b with hle | hle
  · rw [Nat.max_eq_right hle]
    exact hb
  · rw [Nat.max_eq_left hle]
    exact ha

/-- A boundary that is not inside an initial part of the text cuts what follows that part. -/
theorem IsBoundary.cut {before rest : String} {offset : Nat}
    (h : IsBoundary (before ++ rest) offset) (hle : before.utf8ByteSize ≤ offset) :
    exists middle after, rest = middle ++ after ∧ (before ++ middle).utf8ByteSize = offset := by
  rcases isBoundary_iff.mp h with ⟨initial, after, htext, rfl⟩
  have hlists : before.toList ++ rest.toList = initial.toList ++ after.toList := by
    rw [← String.toList_append, ← String.toList_append, htext]
  rw [← byteLength_toList, ← byteLength_toList, ← length_le_iff_byteLength_le hlists] at hle
  rcases List.prefix_of_prefix_length_le ⟨rest.toList, hlists⟩ ⟨after.toList, rfl⟩ hle with
    ⟨middle, hmiddle⟩
  have hinitial : initial = before ++ String.ofList middle := by
    apply String.toList_inj.mp
    rw [String.toList_append, String.toList_ofList, hmiddle]
  refine ⟨String.ofList middle, after, ?_, ?_⟩
  · rw [hinitial, String.append_assoc] at htext
    exact (String.append_right_inj before).mp htext
  · rw [← hinitial]

/-- Two boundaries cut the text into three parts. -/
theorem IsBoundary.parts {text : String} {start stop : Nat} (hstart : IsBoundary text start)
    (hstop : IsBoundary text stop) (hle : start ≤ stop) :
    exists before middle after, text = before ++ middle ++ after ∧
      before.utf8ByteSize = start ∧ (before ++ middle).utf8ByteSize = stop := by
  rcases isBoundary_iff.mp hstart with ⟨before, rest, rfl, rfl⟩
  rcases hstop.cut hle with ⟨middle, after, rfl, hmiddle⟩
  exact ⟨before, middle, after, String.append_assoc.symm, rfl, hmiddle⟩

/-!
# The greatest boundary that is not past an offset
-/

theorem byteLength_front_le (n : Nat) (cs : List Char) : byteLength (front n cs) ≤ n := by
  induction cs generalizing n with
  | nil => exact Nat.zero_le n
  | cons c rest ih =>
      by_cases hfits : c.utf8Size ≤ n
      · have hrest := ih (n - c.utf8Size)
        rw [front, if_pos hfits, byteLength_cons]
        omega
      · rw [front, if_neg hfits]
        exact Nat.zero_le n

/-- An initial part that ends before the offset ends before the boundary. -/
theorem byteLength_le_boundary {n : Nat} {a : List Char} (b : List Char)
    (h : byteLength a ≤ n) : byteLength a ≤ boundary n (a ++ b) := by
  induction a generalizing n with
  | nil => exact Nat.zero_le _
  | cons c rest ih =>
      rw [byteLength_cons] at h
      have hrest := ih (by omega : byteLength rest ≤ n - c.utf8Size)
      rw [boundary, List.cons_append, front, if_pos (by omega), byteLength_cons, byteLength_cons]
      exact Nat.add_le_add_left hrest _

theorem boundary_isGreatest (text : String) (offset : Nat) :
    IsGreatest { n | IsBoundary text n ∧ n ≤ offset } (boundary offset text.toList) := by
  constructor
  · constructor
    · refine isBoundary_iff.mpr ⟨String.ofList (front offset text.toList),
        String.ofList (back offset text.toList), ?_, ?_⟩
      · rw [← String.ofList_append, front_append_back, String.ofList_toList]
      · rw [← byteLength_toList, String.toList_ofList]
        rfl
    · exact byteLength_front_le offset text.toList
  · rintro n ⟨hboundary, hle⟩
    rcases isBoundary_iff.mp hboundary with ⟨before, after, rfl, rfl⟩
    rw [← byteLength_toList] at hle ⊢
    rw [String.toList_append]
    exact byteLength_le_boundary after.toList hle

theorem boundary_of_isBoundary {text : String} {offset : Nat} (h : IsBoundary text offset) :
    boundary offset text.toList = offset := by
  have hhere : IsGreatest { n | IsBoundary text n ∧ n ≤ offset } offset :=
    ⟨⟨h, Nat.le_refl offset⟩, fun _ hn => hn.2⟩
  exact (boundary_isGreatest text offset).unique hhere

theorem boundary_succ_of_not {text : String} {n : Nat} (h : ¬ IsBoundary text (n + 1)) :
    boundary (n + 1) text.toList = boundary n text.toList := by
  have hgreatest := boundary_isGreatest text n
  apply (boundary_isGreatest text (n + 1)).unique
  refine ⟨⟨hgreatest.1.1, Nat.le_succ_of_le hgreatest.1.2⟩, ?_⟩
  rintro m ⟨hboundary, hle⟩
  have hne : m ≠ n + 1 := by
    rintro rfl
    exact h hboundary
  exact hgreatest.2 ⟨hboundary, Nat.le_of_lt_succ (Nat.lt_of_le_of_ne hle hne)⟩

/-- The greatest boundary that is past neither the offset nor the end of the text. -/
def IsFloor (text : String) (offset n : Nat) : Prop :=
  IsGreatest { n | IsBoundary text n ∧ n ≤ min offset text.utf8ByteSize } n

theorem isFloor_boundary (text : String) (offset : Nat) :
    IsFloor text offset (boundary offset text.toList) := by
  have hgreatest := boundary_isGreatest text offset
  constructor
  · exact ⟨hgreatest.1.1, Nat.le_min.mpr ⟨hgreatest.1.2, hgreatest.1.1.le⟩⟩
  · rintro n ⟨hboundary, hle⟩
    exact hgreatest.2 ⟨hboundary, (Nat.le_min.mp hle).1⟩

end Text
end FieldGrammar
