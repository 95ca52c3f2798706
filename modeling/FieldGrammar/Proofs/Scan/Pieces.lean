import Mathlib.Data.List.Induction
import Mathlib.Data.List.Nodup
import FieldGrammar.Proofs.Scan.WhiteSpace
import FieldGrammar.Proofs.Text

/-!
# The pieces of a scan

Offsets do not decide how a text is cut.  The scan is taken apart into cutting
the text into pieces, each with a kind, and laying the pieces out one after the
other from an offset on.
-/

namespace FieldGrammar
namespace Scan

/-!
# Candidates

Every candidate reads something in the text that is searched, under the name of
a rule or as white space.
-/

theorem mem_candidates {rules : List Rule} {cs : List Char} {candidate : Candidate} :
    candidate ∈ candidates rules cs <->
      (exists rule, rule ∈ rules ∧ rule.name = candidate.kind ∧
        rule.find? cs = some candidate.found) ∨
      (candidate.kind = Token.whitespaceKind ∧ whitespace? cs = some candidate.found) := by
  cases candidate with
  | mk kind found =>
      unfold candidates
      rw [List.mem_append, List.mem_filterMap, Option.mem_toList]
      constructor
      · intro h
        rcases h with ⟨rule, hrule, hfound⟩ | hblank
        · rcases Option.map_eq_some_iff.mp hfound with ⟨match_, hmatch, heq⟩
          cases heq
          exact Or.inl ⟨rule, hrule, rfl, hmatch⟩
        · rcases Option.map_eq_some_iff.mp hblank with ⟨match_, hmatch, heq⟩
          cases heq
          exact Or.inr ⟨rfl, hmatch⟩
      · intro h
        rcases h with ⟨rule, hrule, hname, hfound⟩ | ⟨hkind, hblank⟩
        · refine Or.inl ⟨rule, hrule, ?_⟩
          cases hname
          exact Option.map_eq_some_iff.mpr ⟨found, hfound, rfl⟩
        · cases hkind
          exact Or.inr (Option.map_eq_some_iff.mpr ⟨found, hblank, rfl⟩)

theorem candidates_readsIn {rules : List Rule} {cs : List Char} {candidate : Candidate}
    (h : candidate ∈ candidates rules cs) : candidate.found.ReadsIn cs := by
  rcases mem_candidates.mp h with ⟨rule, _, _, hfound⟩ | ⟨_, hblank⟩
  · exact Pattern.Expr.find?_readsIn hfound
  · exact (whitespace?_eq_some_iff.mp hblank).toReadsIn

/-- Where the names of the rules tell the rules apart, the kinds tell the candidates apart. -/
theorem candidates_eq_of_kind {rules : List Rule} {cs : List Char}
    (hnodup : (rules.map Rule.name).Nodup)
    (hwhite : forall rule, rule ∈ rules -> rule.name ≠ Token.whitespaceKind)
    {a b : Candidate} (ha : a ∈ candidates rules cs) (hb : b ∈ candidates rules cs)
    (hkind : a.kind = b.kind) : a = b := by
  have hfound : a.found = b.found := by
    rcases mem_candidates.mp ha with ⟨rule, hrule, hname, hfinda⟩ | ⟨hblank, hfinda⟩
    · rcases mem_candidates.mp hb with ⟨other, hother, hname', hfindb⟩ | ⟨hblank, _⟩
      · have hsame : rule = other :=
          List.inj_on_of_nodup_map hnodup hrule hother (by rw [hname, hname', hkind])
        rw [hsame, hfindb] at hfinda
        exact (Option.some.inj hfinda).symm
      · exact absurd (hname.trans (hkind.trans hblank)) (hwhite rule hrule)
    · rcases mem_candidates.mp hb with ⟨other, hother, hname, _⟩ | ⟨_, hfindb⟩
      · exact absurd (hname.trans (hkind.symm.trans hblank)) (hwhite other hother)
      · rw [hfindb] at hfinda
        exact (Option.some.inj hfinda).symm
  cases a
  cases b
  cases hkind
  cases hfound
  rfl

/-!
# The first of the leftmost candidates

The fold keeps a candidate until one comes that starts strictly earlier.  So what
it keeps at the end starts strictly before the candidates in front of it, and not
after any candidate behind it.
-/

/-- The candidate is the first in the list of those that start leftmost. -/
def FirstLeftmost (found : List Candidate) (candidate : Candidate) : Prop :=
  exists earlier later, found = earlier ++ candidate :: later ∧
    (forall other, other ∈ earlier ->
      candidate.found.before.length < other.found.before.length) ∧
    (forall other, other ∈ later ->
      candidate.found.before.length ≤ other.found.before.length)

theorem firstLeftmost_concat {found : List Candidate} {candidate : Candidate}
    (h : FirstLeftmost found candidate) (other : Candidate) :
    FirstLeftmost (found ++ [other]) (candidate.better other) := by
  rcases h with ⟨earlier, later, rfl, hearlier, hlater⟩
  unfold Candidate.better
  by_cases hlt : other.found.before.length < candidate.found.before.length
  · rw [if_pos hlt]
    refine ⟨earlier ++ candidate :: later, [], rfl, ?_, by simp⟩
    intro old hold
    rcases List.mem_append.mp hold with hold | hold
    · exact Nat.lt_trans hlt (hearlier old hold)
    · rcases List.mem_cons.mp hold with rfl | hold
      · exact hlt
      · exact Nat.lt_of_lt_of_le hlt (hlater old hold)
  · rw [if_neg hlt]
    refine ⟨earlier, later ++ [other], by simp, hearlier, ?_⟩
    intro old hold
    rcases List.mem_append.mp hold with hold | hold
    · exact hlater old hold
    · rw [List.mem_singleton.mp hold]
      exact Nat.le_of_not_lt hlt

theorem firstLeftmost_foldl (first : Candidate) (rest : List Candidate) :
    FirstLeftmost (first :: rest) (rest.foldl Candidate.better first) := by
  induction rest using List.reverseRecOn with
  | nil => exact ⟨[], [], rfl, by simp, by simp⟩
  | append_singleton others other ih =>
      rw [List.foldl_append, ← List.cons_append]
      exact firstLeftmost_concat ih other

theorem firstLeftmost_unique {found : List Candidate} {a b : Candidate}
    (ha : FirstLeftmost found a) (hb : FirstLeftmost found b) : a = b := by
  rcases ha with ⟨earlier, later, rfl, hearlier, hlater⟩
  rcases hb with ⟨earlier', later', hsplit, hearlier', hlater'⟩
  rcases List.append_eq_append_iff.mp hsplit with ⟨more, rfl, hrest⟩ | ⟨more, rfl, hrest⟩
  · rcases List.cons_eq_append_iff.mp hrest with ⟨_, hsame⟩ | ⟨mid, rfl, rfl⟩
    · exact (List.cons.inj hsame).1.symm
    · -- `a` stands before `b`, so it starts after `b` and not after `b` at once
      exact absurd (hearlier' a (by simp)) (Nat.not_lt.mpr (hlater b (by simp)))
  · rcases List.cons_eq_append_iff.mp hrest with ⟨_, hsame⟩ | ⟨mid, rfl, rfl⟩
    · exact (List.cons.inj hsame).1
    · exact absurd (hearlier b (by simp)) (Nat.not_lt.mpr (hlater' a (by simp)))

theorem best?_eq_some_iff {found : List Candidate} {candidate : Candidate} :
    best? found = some candidate <-> FirstLeftmost found candidate := by
  cases found with
  | nil => simp [best?, FirstLeftmost]
  | cons first rest =>
      rw [best?, Option.some.injEq]
      constructor
      · rintro rfl
        exact firstLeftmost_foldl first rest
      · exact firstLeftmost_unique (firstLeftmost_foldl first rest)

theorem best?_eq_none_iff {found : List Candidate} : best? found = none <-> found = [] := by
  cases found with
  | nil => simp [best?]
  | cons first rest => simp [best?]

theorem best?_le {found : List Candidate} {candidate other : Candidate}
    (h : best? found = some candidate) (hother : other ∈ found) :
    candidate.found.before.length ≤ other.found.before.length := by
  rcases best?_eq_some_iff.mp h with ⟨earlier, later, rfl, hearlier, hlater⟩
  rcases List.mem_append.mp hother with hother | hother
  · exact Nat.le_of_lt (hearlier other hother)
  · rcases List.mem_cons.mp hother with rfl | hother
    · exact Nat.le_refl _
    · exact hlater other hother

/-- A candidate at the first place is taken if no other candidate is there. -/
theorem best?_eq_of_front {found : List Candidate} {candidate : Candidate}
    (hmem : candidate ∈ found) (hfront : candidate.found.before = [])
    (honly : forall other, other ∈ found -> other.found.before = [] -> other = candidate) :
    best? found = some candidate := by
  cases hbest : best? found with
  | none =>
      rw [best?_eq_none_iff.mp hbest] at hmem
      cases hmem
  | some best =>
      have hle := best?_le hbest hmem
      rw [hfront, List.length_nil, Nat.le_zero, List.length_eq_zero_iff] at hle
      rw [honly best (best?_mem hbest) hle]

/-!
# Pieces
-/

structure Piece where
  chars : List Char
  kind : String
deriving DecidableEq, Repr

/-- The text before a match, as a piece unless it is empty. -/
def gap (defaultKind : String) (before : List Char) : List Piece :=
  if before.isEmpty then [] else [{ chars := before, kind := defaultKind }]

def pieces (rules : List Rule) (defaultKind : String) (cs : List Char) : List Piece :=
  if cs.isEmpty then []
  else
    match hbest : best? (candidates rules cs) with
    | none => [{ chars := cs, kind := defaultKind }]
    | some candidate =>
        have _ : candidate.found.after.length < cs.length := candidates_after_lt (best?_mem hbest)
        gap defaultKind candidate.found.before ++
          { chars := candidate.found.text, kind := candidate.kind } ::
            pieces rules defaultKind candidate.found.after
termination_by cs.length

def layOut : Nat -> List Piece -> List Token
  | _, [] => []
  | start, piece :: rest =>
      Token.placed piece.chars piece.kind start ::
        layOut (start + Text.byteLength piece.chars) rest

@[simp] theorem pieces_nil (rules : List Rule) (defaultKind : String) :
    pieces rules defaultKind [] = [] := by
  rw [pieces]
  rfl

theorem pieces_of_none {rules : List Rule} {defaultKind : String} {cs : List Char}
    (hcs : cs ≠ []) (hbest : best? (candidates rules cs) = none) :
    pieces rules defaultKind cs = [{ chars := cs, kind := defaultKind }] := by
  rw [pieces, if_neg (by simpa using hcs)]
  split
  · rfl
  · rename_i candidate hsome
    rw [hbest] at hsome
    cases hsome

theorem pieces_of_some {rules : List Rule} {defaultKind : String} {cs : List Char}
    {candidate : Candidate} (hbest : best? (candidates rules cs) = some candidate) :
    pieces rules defaultKind cs =
      gap defaultKind candidate.found.before ++
        { chars := candidate.found.text, kind := candidate.kind } ::
          pieces rules defaultKind candidate.found.after := by
  have hlt := candidates_after_lt (best?_mem hbest)
  have hcs : cs ≠ [] := by
    intro hnil
    simp [hnil] at hlt
  rw [pieces, if_neg (by simpa using hcs)]
  split
  · rename_i hnone
    rw [hbest] at hnone
    cases hnone
  · rename_i other hother
    rw [hbest] at hother
    cases hother
    rfl

/-!
# Laying out

The tokens of a scan are its pieces laid out.  A token of the layout is one of
the pieces, placed after the bytes of the pieces before it.
-/

theorem layOut_gap (defaultKind : String) (start : Nat) (before : List Char)
    (rest : List Piece) :
    layOut start (gap defaultKind before ++ rest) =
      if before.isEmpty then layOut (start + Text.byteLength before) rest
      else Token.placed before defaultKind start ::
        layOut (start + Text.byteLength before) rest := by
  cases before with
  | nil => rfl
  | cons c others => rfl

theorem tokensFrom_eq_layOut (rules : List Rule) (defaultKind : String) (start : Nat)
    (cs : List Char) :
    tokensFrom rules defaultKind start cs = layOut start (pieces rules defaultKind cs) := by
  fun_induction tokensFrom rules defaultKind start cs with
  | case1 start cs hempty =>
      rw [List.isEmpty_iff.mp hempty, pieces_nil]
      rfl
  | case2 start cs hcs hbest =>
      rw [pieces_of_none (by simpa using hcs) hbest]
      rfl
  | case3 start cs hcs candidate hbest hlt found place rest hbefore ih =>
      rw [pieces_of_some hbest, layOut_gap, if_pos hbefore]
      simp only [rest, ih]
      rfl
  | case4 start cs hcs candidate hbest hlt found place rest hbefore ih =>
      rw [pieces_of_some hbest, layOut_gap, if_neg hbefore]
      simp only [rest, ih]
      rfl

theorem tokens_eq_layOut (text : String) (rules : List Rule) (defaultKind : String) :
    tokens text rules defaultKind = layOut 0 (pieces rules defaultKind text.toList) :=
  tokensFrom_eq_layOut rules defaultKind 0 text.toList

theorem layOut_append (start : Nat) (xs ys : List Piece) :
    layOut start (xs ++ ys) =
      layOut start xs ++ layOut (start + Text.byteLength (xs.flatMap Piece.chars)) ys := by
  induction xs generalizing start with
  | nil => rfl
  | cons piece rest ih =>
      simp [layOut, ih, Nat.add_assoc]

/-- A layout that is taken apart comes from pieces that are taken apart. -/
theorem layOut_eq_append {start : Nat} {xs : List Piece} {before rest : List Token}
    (h : layOut start xs = before ++ rest) :
    exists ys zs, xs = ys ++ zs ∧ before = layOut start ys ∧
      rest = layOut (start + Text.byteLength (ys.flatMap Piece.chars)) zs := by
  induction before generalizing start xs with
  | nil => exact ⟨[], xs, rfl, rfl, h.symm⟩
  | cons token others ih =>
      cases xs with
      | nil => cases h
      | cons piece pieces =>
          rw [layOut, List.cons_append, List.cons.injEq] at h
          rcases ih h.2 with ⟨ys, zs, hsplit, hbefore, hrest⟩
          refine ⟨piece :: ys, zs, ?_, ?_, ?_⟩
          · rw [hsplit, List.cons_append]
          · rw [layOut, ← h.1, hbefore]
          · rw [hrest, List.flatMap_cons, Text.byteLength_append, Nat.add_assoc]

theorem mem_layOut {start : Nat} {xs : List Piece} {token : Token}
    (h : token ∈ layOut start xs) :
    exists before piece after, xs = before ++ piece :: after ∧
      token = Token.placed piece.chars piece.kind
        (start + Text.byteLength (before.flatMap Piece.chars)) := by
  rcases List.append_of_mem h with ⟨before, after, hsplit⟩
  rcases layOut_eq_append hsplit with ⟨ys, zs, hpieces, _, hrest⟩
  cases zs with
  | nil => cases hrest
  | cons piece others =>
      rw [layOut, List.cons.injEq] at hrest
      exact ⟨ys, piece, others, hpieces, hrest.1⟩

/-!
# The cut

The pieces are not empty, they make up the text, and each has the name of a rule,
the kind of white space or the default kind.
-/

theorem gap_chars (defaultKind : String) (before : List Char) :
    (gap defaultKind before).flatMap Piece.chars = before := by
  cases before with
  | nil => rfl
  | cons c rest => simp [gap]

theorem mem_gap {defaultKind : String} {before : List Char} {piece : Piece} :
    piece ∈ gap defaultKind before <->
      before ≠ [] ∧ piece = { chars := before, kind := defaultKind } := by
  cases before with
  | nil => simp [gap]
  | cons c rest => simp [gap]

theorem pieces_chars (rules : List Rule) (defaultKind : String) (cs : List Char) :
    (pieces rules defaultKind cs).flatMap Piece.chars = cs := by
  fun_induction pieces rules defaultKind cs with
  | case1 cs hempty => exact (List.isEmpty_iff.mp hempty).symm
  | case2 cs hcs hbest => simp
  | case3 cs hcs candidate hbest hlt ih =>
      rw [List.flatMap_append, gap_chars, List.flatMap_cons, ih]
      exact (candidates_readsIn (best?_mem hbest)).parts

/-- The pieces depend only on what is taken from each rest of the text. -/
theorem pieces_congr {rules others : List Rule} (defaultKind : String) {cs : List Char}
    (h : forall rest, rest <:+ cs ->
      best? (candidates rules rest) = best? (candidates others rest)) :
    pieces rules defaultKind cs = pieces others defaultKind cs := by
  fun_induction pieces rules defaultKind cs with
  | case1 cs hempty => rw [List.isEmpty_iff.mp hempty, pieces_nil]
  | case2 cs hcs hbest =>
      rw [h cs (List.suffix_refl cs)] at hbest
      rw [pieces_of_none (by simpa using hcs) hbest]
  | case3 cs hcs candidate hbest hlt ih =>
      have hparts := (candidates_readsIn (best?_mem hbest)).parts
      have hafter : candidate.found.after <:+ cs := by
        rw [← hparts, ← List.append_assoc]
        exact List.suffix_append _ _
      rw [h cs (List.suffix_refl cs)] at hbest
      rw [pieces_of_some hbest, ih fun rest hrest => h rest (hrest.trans hafter)]

theorem tokens_congr {rules others : List Rule} {text : String} (defaultKind : String)
    (h : forall rest, rest <:+ text.toList ->
      best? (candidates rules rest) = best? (candidates others rest)) :
    tokens text rules defaultKind = tokens text others defaultKind := by
  rw [tokens_eq_layOut, tokens_eq_layOut, pieces_congr defaultKind h]

/-- What is known of a piece: it is the text of a candidate, or text of the default kind. -/
theorem mem_pieces {rules : List Rule} {defaultKind : String} {cs : List Char} {piece : Piece}
    (h : piece ∈ pieces rules defaultKind cs) :
    (piece.kind = defaultKind ∧ piece.chars ≠ []) ∨
      exists rest candidate, candidate ∈ candidates rules rest ∧
        piece = { chars := candidate.found.text, kind := candidate.kind } := by
  fun_induction pieces rules defaultKind cs with
  | case1 cs hempty => cases h
  | case2 cs hcs hbest =>
      rw [List.mem_singleton] at h
      cases h
      exact Or.inl ⟨rfl, by simpa using hcs⟩
  | case3 cs hcs candidate hbest hlt ih =>
      rw [List.mem_append, List.mem_cons] at h
      rcases h with hgap | rfl | hrest
      · rcases mem_gap.mp hgap with ⟨hbefore, rfl⟩
        exact Or.inl ⟨rfl, hbefore⟩
      · exact Or.inr ⟨cs, candidate, best?_mem hbest, rfl⟩
      · exact ih hrest

theorem pieces_chars_ne_nil {rules : List Rule} {defaultKind : String} {cs : List Char}
    {piece : Piece} (h : piece ∈ pieces rules defaultKind cs) : piece.chars ≠ [] := by
  rcases mem_pieces h with ⟨_, hchars⟩ | ⟨rest, candidate, hmem, rfl⟩
  · exact hchars
  · exact (candidates_readsIn hmem).text_ne_nil

theorem pieces_kind {rules : List Rule} {defaultKind : String} {cs : List Char}
    {piece : Piece} (h : piece ∈ pieces rules defaultKind cs) :
    piece.kind ∈ rules.map Rule.name ∨ piece.kind = Token.whitespaceKind ∨
      piece.kind = defaultKind := by
  rcases mem_pieces h with ⟨hkind, _⟩ | ⟨rest, candidate, hmem, rfl⟩
  · exact Or.inr (Or.inr hkind)
  · rcases mem_candidates.mp hmem with ⟨rule, hrule, hname, _⟩ | ⟨hkind, _⟩
    · exact Or.inl (List.mem_map.mpr ⟨rule, hrule, hname⟩)
    · exact Or.inr (Or.inl hkind)

end Scan
end FieldGrammar
