import FieldGrammar.Edit
import FieldGrammar.Proofs.Text.Boundary

/-!
# Edits at the boundaries of a text

An edit cuts its text at two boundaries and puts the replacement between them.
Where the span is a part of the text, that part is what gets replaced; a span that
starts at the end of the text, or past it, only adds to the text; and the ends of
any other span are taken back to boundaries.  Nothing on the way can go wrong, and
every edit can be undone by another one.
-/

namespace FieldGrammar
namespace Edit

/-- What is replaced depends on nothing but where the ends of the span are taken. -/
theorem splice_of_bounds {a b c : List Char} {span : Span}
    (hstart : Text.boundary span.start (a ++ (b ++ c)) = Text.byteLength a)
    (hstop : max (Text.boundary span.stop (a ++ (b ++ c))) (Text.byteLength a) =
      Text.byteLength (a ++ b)) (replacement : String) :
    splice (String.ofList (a ++ (b ++ c))) span replacement =
      { text := String.ofList (a ++ replacement.toList ++ c)
        caret := Text.byteLength a + Text.byteLength replacement.toList } := by
  have hback := Text.back_byteLength_append (a ++ b) c
  rw [List.append_assoc] at hback
  simp only [splice, String.toList_ofList, hstart, hstop, Text.front_byteLength_append, hback]

/-- The middle part of a text is replaced, and the caret stands after its replacement. -/
theorem splice_part (a b c : List Char) (replacement : String) :
    splice (String.ofList (a ++ (b ++ c)))
        { start := Text.byteLength a, stop := Text.byteLength a + Text.byteLength b }
        replacement =
      { text := String.ofList (a ++ replacement.toList ++ c)
        caret := Text.byteLength a + Text.byteLength replacement.toList } := by
  have hstop := Text.boundary_byteLength_append (a ++ b) c
  rw [Text.byteLength_append, List.append_assoc] at hstop
  apply splice_of_bounds (Text.boundary_byteLength_append a (b ++ c))
  rw [hstop, Text.byteLength_append, Nat.max_eq_left (Nat.le_add_right _ _)]

theorem splice_past_end {text : String} {offset : Nat} (h : text.utf8ByteSize ≤ offset)
    (replacement : String) :
    splice text (Span.point offset) replacement =
      { text := String.ofList (text.toList ++ replacement.toList)
        caret := text.utf8ByteSize + Text.byteLength replacement.toList } := by
  rw [← Text.byteLength_toList] at h ⊢
  have hboundary : Text.boundary offset text.toList = Text.byteLength text.toList := by
    rw [Text.boundary, Text.front_of_le h]
  simp only [splice, Span.point, hboundary, Nat.max_self, Text.front_of_le (Nat.le_refl _),
    Text.back_of_le (Nat.le_refl _), List.append_nil]

/-!
# Any span

The ends of a span are taken to boundaries, and the text between the boundaries is
what gets replaced.
-/

/-- The text in three parts, cut where the ends of the span are taken. -/
structure CutAt (text : String) (span : Span) (before removed after : String) : Prop where
  parts : text = before ++ removed ++ after
  start : Text.IsFloor text span.start before.utf8ByteSize
  stop : exists floor, Text.IsFloor text span.stop floor ∧
    (before ++ removed).utf8ByteSize = max before.utf8ByteSize floor

theorem exists_cutAt (text : String) (span : Span) :
    exists before removed after, CutAt text span before removed after := by
  -- the greater of two boundaries is a boundary, also when the span is the wrong way round
  have hstart := Text.isFloor_boundary text span.start
  have hstop := Text.isFloor_boundary text span.stop
  rcases hstart.1.1.parts (hstart.1.1.max hstop.1.1) (Nat.le_max_left _ _) with
    ⟨before, removed, after, htext, hbefore, hremoved⟩
  refine ⟨before, removed, after, htext, ?_, _, hstop, ?_⟩
  · rw [hbefore]
    exact hstart
  · rw [hremoved, hbefore]

theorem ofList_parts (a b c : String) :
    String.ofList (a.toList ++ (b.toList ++ c.toList)) = a ++ b ++ c := by
  apply String.toList_inj.mp
  simp

theorem CutAt.boundary_start {text : String} {span : Span} {before removed after : String}
    (h : CutAt text span before removed after) :
    Text.boundary span.start text.toList = before.utf8ByteSize :=
  (Text.isFloor_boundary text span.start).unique h.start

theorem CutAt.boundary_stop {text : String} {span : Span} {before removed after : String}
    (h : CutAt text span before removed after) :
    max (Text.boundary span.stop text.toList) before.utf8ByteSize =
      (before ++ removed).utf8ByteSize := by
  rcases h.stop with ⟨floor, hfloor, hstop⟩
  rw [hstop, (Text.isFloor_boundary text span.stop).unique hfloor, Nat.max_comm]

theorem splice_of_cutAt {text : String} {span : Span} {before removed after : String}
    (h : CutAt text span before removed after) (replacement : String) :
    splice text span replacement =
      { text := before ++ replacement ++ after
        caret := before.utf8ByteSize + replacement.utf8ByteSize } := by
  have hstart := h.boundary_start
  have hstop := h.boundary_stop
  rw [h.parts, ← ofList_parts, String.toList_ofList, ← Text.byteLength_toList] at hstart hstop
  rw [← Text.byteLength_toList, String.toList_append] at hstop
  rw [h.parts, ← ofList_parts, splice_of_bounds hstart hstop, List.append_assoc, ofList_parts,
    Text.byteLength_toList, Text.byteLength_toList]

/-- A span that is a part of the text is what gets replaced. -/
theorem splice_between {before removed after : String} {span : Span}
    (hstart : span.start = before.utf8ByteSize)
    (hstop : span.stop = (before ++ removed).utf8ByteSize) (replacement : String) :
    splice (before ++ removed ++ after) span replacement =
      { text := before ++ replacement ++ after
        caret := before.utf8ByteSize + replacement.utf8ByteSize } := by
  have hpart := splice_part before.toList removed.toList after.toList replacement
  rw [List.append_assoc, ofList_parts, ofList_parts, Text.byteLength_toList,
    Text.byteLength_toList, Text.byteLength_toList, ← String.utf8ByteSize_append, ← hstart,
    ← hstop] at hpart
  rw [hpart, hstart]

/-- The part that was put in can be replaced by what was there before. -/
theorem splice_undo (before replacement after removed : String) :
    splice (before ++ replacement ++ after)
        { start := before.utf8ByteSize
          stop := before.utf8ByteSize + replacement.utf8ByteSize } removed =
      { text := before ++ removed ++ after
        caret := (before ++ removed).utf8ByteSize } := by
  rw [splice_between rfl (String.utf8ByteSize_append ..).symm, String.utf8ByteSize_append]

/-!
# Steps that can fail

The same edit once more, giving up where an offset would be stepped back below zero,
where a difference of lengths would be below zero, and where a text would be cut
inside a character.
-/

/-- Steps back until a character starts. -/
def floor? (text : String) : Nat -> Option Nat
  | 0 => if Text.IsBoundary text 0 then some 0 else none
  | n + 1 => if Text.IsBoundary text (n + 1) then some (n + 1) else floor? text n

def difference? (a b : Nat) : Option Nat :=
  if b ≤ a then some (a - b) else none

/-- The part of the text between two offsets. -/
def slice? (text : String) (start stop : Nat) : Option String :=
  if start ≤ stop ∧ Text.IsBoundary text start ∧ Text.IsBoundary text stop then
    some (String.ofList (Span.extract { start := start, stop := stop } text.toList))
  else none

def splice? (text : String) (span : Span) (replacement : String) : Option Edit := do
  let start ← floor? text (min span.start text.utf8ByteSize)
  let floor ← floor? text (min span.stop text.utf8ByteSize)
  let stop := max floor start
  let removed ← difference? stop start
  let _ ← difference? text.utf8ByteSize removed
  let before ← slice? text 0 start
  let after ← slice? text stop text.utf8ByteSize
  some
    { text := before ++ replacement ++ after
      caret := start + replacement.utf8ByteSize }

theorem floor?_eq (text : String) (offset : Nat) :
    floor? text offset = some (Text.boundary offset text.toList) := by
  induction offset with
  | zero =>
      have hzero : Text.IsBoundary text 0 := String.Pos.Raw.isValid_zero
      rw [floor?, if_pos hzero, Text.boundary, Text.front_zero]
      rfl
  | succ n ih =>
      rw [floor?]
      split
      · rename_i hboundary
        rw [Text.boundary_of_isBoundary hboundary]
      · rename_i hinside
        rw [ih, Text.boundary_succ_of_not hinside]

theorem slice?_part (a b c : String) :
    slice? (a ++ b ++ c) a.utf8ByteSize (a ++ b).utf8ByteSize = some b := by
  have hstart : Text.IsBoundary (a ++ b ++ c) a.utf8ByteSize := by
    rw [String.append_assoc]
    exact Text.isBoundary_append a (b ++ c)
  have hle : a.utf8ByteSize ≤ (a ++ b).utf8ByteSize := by
    rw [String.utf8ByteSize_append]
    exact Nat.le_add_right _ _
  have hextract := Span.extract_append a.toList b.toList c.toList
  rw [Text.byteLength_toList, Text.byteLength_toList, ← String.utf8ByteSize_append,
    ← List.append_assoc, ← String.toList_append, ← String.toList_append] at hextract
  rw [slice?, if_pos ⟨hle, hstart, Text.isBoundary_append (a ++ b) c⟩, hextract,
    String.ofList_toList]

theorem floor?_of_isFloor {text : String} {offset n : Nat} (h : Text.IsFloor text offset n) :
    floor? text (min offset text.utf8ByteSize) = some n := by
  rw [floor?_eq, (Text.boundary_isGreatest text _).unique h]

theorem difference?_add (a b : Nat) : difference? (a + b) a = some b := by
  rw [difference?, if_pos (Nat.le_add_right a b), Nat.add_sub_cancel_left]

theorem splice?_of_cutAt {text : String} {span : Span} {before removed after : String}
    (h : CutAt text span before removed after) (replacement : String) :
    splice? text span replacement =
      some
        { text := before ++ replacement ++ after
          caret := before.utf8ByteSize + replacement.utf8ByteSize } := by
  rcases h with ⟨rfl, hstart, floor, hfloor, hstop⟩
  rw [Nat.max_comm] at hstop
  have hremoved : difference? (max floor before.utf8ByteSize) before.utf8ByteSize =
      some removed.utf8ByteSize := by
    rw [← hstop, String.utf8ByteSize_append, difference?_add]
  have hkept : difference? (before ++ removed ++ after).utf8ByteSize removed.utf8ByteSize =
      some (before.utf8ByteSize + after.utf8ByteSize) := by
    rw [String.utf8ByteSize_append, String.utf8ByteSize_append, Nat.add_comm before.utf8ByteSize,
      Nat.add_assoc, difference?_add]
  have hbefore : slice? (before ++ removed ++ after) 0 before.utf8ByteSize = some before := by
    have hpart := slice?_part "" before (removed ++ after)
    rw [String.empty_append, ← String.append_assoc] at hpart
    exact hpart
  have hafter : slice? (before ++ removed ++ after) (max floor before.utf8ByteSize)
      (before ++ removed ++ after).utf8ByteSize = some after := by
    have hpart := slice?_part (before ++ removed) after ""
    rw [String.append_empty, hstop] at hpart
    exact hpart
  simp only [splice?, floor?_of_isFloor hstart, floor?_of_isFloor hfloor, Option.bind_eq_bind,
    Option.bind_some, hremoved, hkept, hbefore, hafter]

/--
Every step of an edit succeeds.  The text is cut where the ends of the span are
taken, the caret stands at a boundary of the new text, and putting the removed part
in the place of the replacement gives the text back.
-/
theorem splice_cuts_at_boundaries (text : String) (span : Span) (replacement : String) :
    splice? text span replacement = some (splice text span replacement) ∧
      exists before removed after, CutAt text span before removed after ∧
        splice text span replacement =
          { text := before ++ replacement ++ after
            caret := before.utf8ByteSize + replacement.utf8ByteSize } ∧
        Text.IsBoundary (splice text span replacement).text
          (splice text span replacement).caret ∧
        (splice text span replacement).caret ≤
          (splice text span replacement).text.utf8ByteSize ∧
        splice (splice text span replacement).text
            { start := before.utf8ByteSize, stop := (splice text span replacement).caret }
            removed =
          { text := text, caret := (before ++ removed).utf8ByteSize } := by
  rcases exists_cutAt text span with ⟨before, removed, after, hcut⟩
  have hedit := splice_of_cutAt hcut replacement
  have hcaret := Text.isBoundary_append (before ++ replacement) after
  rw [String.utf8ByteSize_append] at hcaret
  rw [splice?_of_cutAt hcut, hedit]
  refine ⟨rfl, before, removed, after, hcut, rfl, ?_⟩
  refine ⟨hcaret, hcaret.le, ?_⟩
  rw [splice_undo, ← hcut.parts]

/-!
# Edits of two parts

Two parts of a text that do not overlap can be replaced in either order.  The later
part is moved by as many bytes as the earlier one grows or shrinks.
-/

/-- The parts that four boundaries cut a text into. -/
structure FourCuts (text : String) (a b c d : Nat) (before left between right after : String) :
    Prop where
  parts : text = before ++ left ++ between ++ right ++ after
  left_start : a = before.utf8ByteSize
  left_stop : b = (before ++ left).utf8ByteSize
  right_start : c = (before ++ left ++ between).utf8ByteSize
  right_stop : d = (before ++ left ++ between ++ right).utf8ByteSize

theorem exists_fourCuts {text : String} {a b c d : Nat} (ha : Text.IsBoundary text a)
    (hb : Text.IsBoundary text b) (hc : Text.IsBoundary text c) (hd : Text.IsBoundary text d)
    (hab : a ≤ b) (hbc : b ≤ c) (hcd : c ≤ d) :
    exists before left between right after,
      FourCuts text a b c d before left between right after := by
  rcases ha.parts hb hab with ⟨before, left, rest, rfl, rfl, rfl⟩
  rcases hc.cut hbc with ⟨between, rest, rfl, rfl⟩
  rw [← String.append_assoc] at hd
  rcases hd.cut hcd with ⟨right, after, rfl, rfl⟩
  refine ⟨before, left, between, right, after, ?_, rfl, rfl, rfl, rfl⟩
  rw [← String.append_assoc, ← String.append_assoc]

section FourCuts

variable {text : String} {a b c d : Nat} {before left between right after : String}
variable (h : FourCuts text a b c d before left between right after) (first second : String)

include h

theorem splice_later_first :
    (splice (splice text { start := c, stop := d } second).text { start := a, stop := b }
      first).text = before ++ first ++ between ++ second ++ after := by
  have hlater : splice text { start := c, stop := d } second =
      { text := before ++ left ++ between ++ second ++ after
        caret := (before ++ left ++ between).utf8ByteSize + second.utf8ByteSize } := by
    rw [h.parts]
    exact splice_between h.right_start h.right_stop second
  have hassoc : before ++ left ++ between ++ second ++ after =
      before ++ left ++ (between ++ second ++ after) := by
    simp only [String.append_assoc]
  rw [hlater, hassoc, splice_between h.left_start h.left_stop]
  simp only [String.append_assoc]

theorem splice_earlier_first :
    (splice (splice text { start := a, stop := b } first).text
      { start := c - (b - a) + first.utf8ByteSize
        stop := d - (b - a) + first.utf8ByteSize } second).text =
      before ++ first ++ between ++ second ++ after := by
  have htext : text = before ++ left ++ (between ++ right ++ after) := by
    rw [h.parts]
    simp only [String.append_assoc]
  have hearlier : splice text { start := a, stop := b } first =
      { text := before ++ first ++ (between ++ right ++ after)
        caret := before.utf8ByteSize + first.utf8ByteSize } := by
    rw [htext]
    exact splice_between h.left_start h.left_stop first
  -- the bytes of the part that was replaced give way to those of its replacement
  have hstart : c - (b - a) + first.utf8ByteSize = (before ++ first ++ between).utf8ByteSize := by
    rw [h.left_start, h.left_stop, h.right_start]
    simp only [String.utf8ByteSize_append]
    omega
  have hstop : d - (b - a) + first.utf8ByteSize =
      (before ++ first ++ between ++ right).utf8ByteSize := by
    rw [h.left_start, h.left_stop, h.right_stop]
    simp only [String.utf8ByteSize_append]
    omega
  have hassoc : before ++ first ++ (between ++ right ++ after) =
      before ++ first ++ between ++ right ++ after := by
    simp only [String.append_assoc]
  rw [hearlier, hassoc, splice_between hstart hstop]

end FourCuts

/-- Both orders replace the two parts and keep everything around them. -/
theorem disjoint_splices_commute (text : String) (a b c d : Nat) (first second : String)
    (ha : Text.IsBoundary text a) (hb : Text.IsBoundary text b) (hc : Text.IsBoundary text c)
    (hd : Text.IsBoundary text d) (hab : a ≤ b) (hbc : b ≤ c) (hcd : c ≤ d) :
    (splice (splice text { start := c, stop := d } second).text { start := a, stop := b }
        first).text =
      (splice (splice text { start := a, stop := b } first).text
        { start := c - (b - a) + first.utf8ByteSize
          stop := d - (b - a) + first.utf8ByteSize } second).text ∧
      exists before left between right after,
        FourCuts text a b c d before left between right after ∧
        (splice (splice text { start := c, stop := d } second).text { start := a, stop := b }
          first).text = before ++ first ++ between ++ second ++ after := by
  rcases exists_fourCuts ha hb hc hd hab hbc hcd with
    ⟨before, left, between, right, after, hcuts⟩
  have hlater := splice_later_first hcuts first second
  have hearlier := splice_earlier_first hcuts first second
  exact ⟨hlater.trans hearlier.symm, before, left, between, right, after, hcuts, hlater⟩

/-- The two parts touch, and the earlier one is replaced by a longer text. -/
theorem disjoint_splices_commute_touching :
    (splice (splice "aéßz" { start := 3, stop := 5 } "").text { start := 1, stop := 3 }
        "öü").text =
      (splice (splice "aéßz" { start := 1, stop := 3 } "öü").text { start := 5, stop := 7 }
        "").text ∧
      (splice (splice "aéßz" { start := 3, stop := 5 } "").text { start := 1, stop := 3 }
        "öü").text = "aöüz" := by
  have hcommute := disjoint_splices_commute "aéßz" 1 3 3 5 "öü" "" (by decide) (by decide)
    (by decide) (by decide) (by decide) (by decide) (by decide)
  exact ⟨hcommute.1, by decide⟩

end Edit
end FieldGrammar
