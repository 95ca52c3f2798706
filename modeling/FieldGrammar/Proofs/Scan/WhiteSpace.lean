import Mathlib.Data.List.TakeWhile
import FieldGrammar.Proofs.Pattern.Search
import FieldGrammar.Scan

/-!
# The first run of white space

White space is found by passing over all other characters and then reading as far
as white space goes.  What is found in this way is told by where it stands in the
text, and nothing is found only where there is no white space.
-/

namespace FieldGrammar
namespace Scan

/-- A run of white space with none before it, which goes as far as it can. -/
structure FirstRun (cs : List Char) (run : Pattern.Match) : Prop extends run.ReadsIn cs where
  before_solid : forall c, c ∈ run.before -> Character.isWhiteSpace c = false
  text_blank : forall c, c ∈ run.text -> Character.isWhiteSpace c = true
  after_solid : forall c rest, run.after = c :: rest -> Character.isWhiteSpace c = false

theorem whitespace?_of_dropWhile {cs rest : List Char} {c : Char}
    (h : cs.dropWhile (!Character.isWhiteSpace ·) = c :: rest) :
    whitespace? cs =
      some
        { before := cs.takeWhile (!Character.isWhiteSpace ·)
          text := (c :: rest).takeWhile Character.isWhiteSpace
          after := (c :: rest).dropWhile Character.isWhiteSpace } := by
  unfold whitespace?
  rw [h]

theorem whitespace?_eq_none_iff {cs : List Char} :
    whitespace? cs = none <-> forall c, c ∈ cs -> Character.isWhiteSpace c = false := by
  have hdrop : cs.dropWhile (!Character.isWhiteSpace ·) = [] <->
      forall c, c ∈ cs -> Character.isWhiteSpace c = false := by
    simp [List.dropWhile_eq_nil_iff]
  rw [← hdrop]
  unfold whitespace?
  split <;> simp_all

theorem firstRun_of_dropWhile {cs rest : List Char} {c : Char}
    (h : cs.dropWhile (!Character.isWhiteSpace ·) = c :: rest) :
    FirstRun cs
      { before := cs.takeWhile (!Character.isWhiteSpace ·)
        text := (c :: rest).takeWhile Character.isWhiteSpace
        after := (c :: rest).dropWhile Character.isWhiteSpace } where
  parts := by
    show cs.takeWhile _ ++
      ((c :: rest).takeWhile Character.isWhiteSpace ++
        (c :: rest).dropWhile Character.isWhiteSpace) = cs
    rw [List.takeWhile_append_dropWhile, ← h, List.takeWhile_append_dropWhile]
  text_ne_nil := by
    have hblank : Character.isWhiteSpace c = true := by
      have hhead := List.head?_dropWhile_not (!Character.isWhiteSpace ·) cs
      simpa [h] using hhead
    simp [hblank]
  before_solid := by
    intro d hd
    simpa using List.all_eq_true.mp List.all_takeWhile d hd
  text_blank := by
    intro d hd
    exact List.all_eq_true.mp List.all_takeWhile d hd
  after_solid := by
    intro d others (hafter : (c :: rest).dropWhile Character.isWhiteSpace = d :: others)
    have hhead := List.head?_dropWhile_not Character.isWhiteSpace (c :: rest)
    rw [hafter] at hhead
    exact hhead

theorem FirstRun.after_stops {cs : List Char} {run : Pattern.Match} (h : FirstRun cs run) :
    run.after.takeWhile Character.isWhiteSpace = [] ∧
      run.after.dropWhile Character.isWhiteSpace = run.after := by
  cases hafter : run.after with
  | nil => exact ⟨rfl, rfl⟩
  | cons c rest =>
      have hsolid := h.after_solid c rest hafter
      simp [hsolid]

theorem whitespace?_of_firstRun {cs : List Char} {run : Pattern.Match} (h : FirstRun cs run) :
    whitespace? cs = some run := by
  have hbefore : forall c, c ∈ run.before -> (!Character.isWhiteSpace c) = true := by
    intro c hc
    rw [h.before_solid c hc]
    rfl
  cases htext : run.text with
  | nil => exact absurd htext h.text_ne_nil
  | cons c others =>
      have hblank : Character.isWhiteSpace c = true := h.text_blank c (by simp [htext])
      have hdrop : cs.dropWhile (!Character.isWhiteSpace ·) = c :: (others ++ run.after) := by
        rw [← h.parts, List.dropWhile_append_of_pos hbefore]
        simp [htext, hblank]
      have htake : cs.takeWhile (!Character.isWhiteSpace ·) = run.before := by
        rw [← h.parts, List.takeWhile_append_of_pos hbefore]
        simp [htext, hblank]
      rw [whitespace?_of_dropWhile hdrop, htake, ← List.cons_append, ← htext,
        List.takeWhile_append_of_pos h.text_blank, List.dropWhile_append_of_pos h.text_blank,
        h.after_stops.1, h.after_stops.2, List.append_nil]

theorem whitespace?_eq_some_iff {cs : List Char} {run : Pattern.Match} :
    whitespace? cs = some run <-> FirstRun cs run := by
  constructor
  · intro h
    cases hdrop : cs.dropWhile (!Character.isWhiteSpace ·) with
    | nil =>
        unfold whitespace? at h
        rw [hdrop] at h
        cases h
    | cons c rest =>
        rw [whitespace?_of_dropWhile hdrop] at h
        cases h
        exact firstRun_of_dropWhile hdrop
  · exact whitespace?_of_firstRun

end Scan
end FieldGrammar
