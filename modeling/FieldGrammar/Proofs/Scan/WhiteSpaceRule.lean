import FieldGrammar.Proofs.Scan.Pieces

/-!
# White space as a rule

The scan looks for white space by hand, after all rules.  The pattern that reads one
or more characters of white space finds the same runs, at the same offsets.  A rule
with this pattern at the end of the rules ties with white space wherever it matches,
so it changes no token.
-/

namespace FieldGrammar

namespace Pattern
namespace Expr

/-!
# Runs of a set

One or more characters of a set, as many as there are.
-/

def run (set : CharSet) : Expr :=
  .times (.read set) 1 none true

theorem frontier_run (set : CharSet) (before after : Option Char) :
    (run set).frontier [[.meet (run set)]] before after =
      { waiting := [(set, [.again (.read set) true])], finished := false } := rfl

theorem preferred?_run_nil (set : CharSet) (before : Option Char) :
    (run set).preferred? before [] = none :=
  follow_nil (frontier_run set before none)

theorem preferred?_run_of_mem (set : CharSet) {c : Char} (h : set.contains c = true)
    (before : Option Char) (rest : List Char) :
    (run set).preferred? before (c :: rest) =
      some ((c :: rest).takeWhile set.contains).length := by
  rw [List.takeWhile_cons_of_pos h, List.length_cons, Nat.add_comm,
    ← follow_again (run set) set (some c) none 1 rest]
  apply follow_read (frontier_run set before (some c))
  simp [Frontier.advance, h]

theorem preferred?_run_of_not_mem (set : CharSet) {c : Char} (h : ¬ set.contains c = true)
    (before : Option Char) (rest : List Char) :
    (run set).preferred? before (c :: rest) = none := by
  apply follow_stop (frontier_run set before (some c))
  simp [Frontier.advance, h]

theorem search?_of_preferred? {e : Expr} {previous : Option Char} {cs text after : List Char}
    (hparts : text ++ after = cs) (h : e.preferred? previous cs = some text.length) :
    e.search? previous cs = some { before := [], text := text, after := after } := by
  cases cs with
  | nil =>
      rw [List.append_eq_nil_iff] at hparts
      rw [search?, h, hparts.1, hparts.2]
  | cons c rest =>
      rw [search?, h, ← hparts]
      simp

theorem search?_run_of_mem (set : CharSet) {c : Char} (h : set.contains c = true)
    (previous : Option Char) (rest : List Char) :
    (run set).search? previous (c :: rest) =
      some
        { before := []
          text := (c :: rest).takeWhile set.contains
          after := (c :: rest).dropWhile set.contains } :=
  search?_of_preferred? List.takeWhile_append_dropWhile (preferred?_run_of_mem set h previous rest)

theorem search?_run_of_not_mem (set : CharSet) {c : Char} (h : ¬ set.contains c = true)
    (previous : Option Char) (rest : List Char) :
    (run set).search? previous (c :: rest) =
      ((run set).search? (some c) rest).map (Match.prepend [c]) := by
  rw [search?, preferred?_run_of_not_mem set h]

end Expr
end Pattern

namespace Scan

open Pattern

/-!
# The pattern for white space
-/

def whitespacePattern : Pattern :=
  { text := "\\s+"
    expr := Expr.run .whiteSpace }

theorem ofText?_whitespacePattern :
    Pattern.ofText? whitespacePattern.text = some whitespacePattern := by
  decide

def whitespaceRule : Rule :=
  Rule.ofPattern Token.whitespaceKind whitespacePattern

theorem whitespace?_of_blank {c : Char} (h : Character.isWhiteSpace c = true)
    (rest : List Char) :
    whitespace? (c :: rest) =
      some
        { before := []
          text := (c :: rest).takeWhile Character.isWhiteSpace
          after := (c :: rest).dropWhile Character.isWhiteSpace } := by
  have hdrop : (c :: rest).dropWhile (!Character.isWhiteSpace ·) = c :: rest := by simp [h]
  have htake : (c :: rest).takeWhile (!Character.isWhiteSpace ·) = [] := by simp [h]
  rw [whitespace?_of_dropWhile hdrop, htake]

theorem whitespace?_of_solid {c : Char} (h : ¬ Character.isWhiteSpace c = true)
    (rest : List Char) :
    whitespace? (c :: rest) = (whitespace? rest).map (Match.prepend [c]) := by
  have hdrop : (c :: rest).dropWhile (!Character.isWhiteSpace ·) =
      rest.dropWhile (!Character.isWhiteSpace ·) := by simp [h]
  have htake : (c :: rest).takeWhile (!Character.isWhiteSpace ·) =
      c :: rest.takeWhile (!Character.isWhiteSpace ·) := by simp [h]
  unfold whitespace?
  rw [hdrop, htake]
  cases rest.dropWhile (!Character.isWhiteSpace ·) with
  | nil => rfl
  | cons d others => rfl

/-- The leftmost match of the pattern is the first run of white space. -/
theorem search?_whitespacePattern (previous : Option Char) (cs : List Char) :
    whitespacePattern.expr.search? previous cs = whitespace? cs := by
  induction cs generalizing previous with
  | nil =>
      show (Expr.run .whiteSpace).search? previous [] = none
      rw [Expr.search?, Expr.preferred?_run_nil]
  | cons c rest ih =>
      by_cases hblank : Character.isWhiteSpace c = true
      · rw [whitespace?_of_blank hblank]
        exact Expr.search?_run_of_mem .whiteSpace hblank previous rest
      · rw [whitespace?_of_solid hblank, ← ih (some c)]
        exact Expr.search?_run_of_not_mem .whiteSpace hblank previous rest

theorem find?_whitespaceRule (cs : List Char) : whitespaceRule.find? cs = whitespace? cs := by
  have hsearch := search?_whitespacePattern none cs
  show whitespacePattern.expr.find? none cs = whitespace? cs
  cases hblank : whitespace? cs with
  | none => exact Expr.find?_of_search?_none (hsearch.trans hblank)
  | some run =>
      exact Expr.find?_of_search?_read (hsearch.trans hblank)
        (whitespace?_eq_some_iff.mp hblank).text_ne_nil

/-!
# Offsets

The first run of white space once more, told by byte offsets alone: where the first
character of white space stands, and how far it is from there to the first other
character, or to the end of the text.
-/

/-- Every character with its byte offset, counted from a given one on. -/
def offsetsFrom : Nat -> List Char -> List (Nat × Char)
  | _, [] => []
  | offset, c :: rest => (offset, c) :: offsetsFrom (offset + c.utf8Size) rest

def whitespaceSpan? (cs : List Char) : Option Span := do
  let first ← (offsetsFrom 0 cs).find? fun entry => Character.isWhiteSpace entry.2
  let stop := (offsetsFrom 0 (Text.back first.1 cs)).find? fun entry =>
    !Character.isWhiteSpace entry.2
  let length := (stop.map Prod.fst).getD (Text.byteLength cs - first.1)
  some { start := first.1, stop := first.1 + length }

/-- The span of a match in the text that was searched. -/
def matchSpan (found : Match) : Span :=
  { start := Text.byteLength found.before
    stop := Text.byteLength found.before + Text.byteLength found.text }

theorem find?_offsetsFrom (p : Char -> Bool) {before : List Char}
    (hbefore : forall c, c ∈ before -> p c = false) {c : Char} (hc : p c = true)
    (offset : Nat) (rest : List Char) :
    (offsetsFrom offset (before ++ c :: rest)).find? (fun entry => p entry.2) =
      some (offset + Text.byteLength before, c) := by
  induction before generalizing offset with
  | nil => simp [offsetsFrom, hc]
  | cons d others ih =>
      rw [List.forall_mem_cons] at hbefore
      rw [List.cons_append, offsetsFrom, List.find?_cons_of_neg (by simp [hbefore.1]),
        ih hbefore.2, Text.byteLength_cons, Nat.add_assoc]

theorem find?_offsetsFrom_none (p : Char -> Bool) {cs : List Char}
    (h : forall c, c ∈ cs -> p c = false) (offset : Nat) :
    (offsetsFrom offset cs).find? (fun entry => p entry.2) = none := by
  induction cs generalizing offset with
  | nil => rfl
  | cons c rest ih =>
      rw [List.forall_mem_cons] at h
      rw [offsetsFrom, List.find?_cons_of_neg (by simp [h.1]), ih h.2]

theorem length_of_firstRun {cs : List Char} {run : Match} (h : FirstRun cs run) :
    (((offsetsFrom 0 (run.text ++ run.after)).find? fun entry =>
        !Character.isWhiteSpace entry.2).map Prod.fst).getD
          (Text.byteLength cs - Text.byteLength run.before) = Text.byteLength run.text := by
  have htext : forall c, c ∈ run.text -> (!Character.isWhiteSpace c) = false := by
    intro c hc
    rw [h.text_blank c hc]
    rfl
  cases hafter : run.after with
  | nil =>
      rw [List.append_nil, find?_offsetsFrom_none (!Character.isWhiteSpace ·) htext, ← h.parts,
        hafter, List.append_nil, Text.byteLength_append]
      exact Nat.add_sub_cancel_left _ _
  | cons c rest =>
      have hc : (!Character.isWhiteSpace c) = true := by
        rw [h.after_solid c rest hafter]
        rfl
      rw [find?_offsetsFrom (!Character.isWhiteSpace ·) htext hc, Nat.zero_add]
      rfl

theorem whitespaceSpan?_of_firstRun {cs : List Char} {run : Match} (h : FirstRun cs run) :
    whitespaceSpan? cs = some (matchSpan run) := by
  have hback : Text.back (Text.byteLength run.before) cs = run.text ++ run.after := by
    rw [← h.parts, Text.back_byteLength_append]
  rcases List.exists_cons_of_ne_nil h.text_ne_nil with ⟨c, others, htext⟩
  have hblank : Character.isWhiteSpace c = true := h.text_blank c (by simp [htext])
  have hfirst : (offsetsFrom 0 cs).find? (fun entry => Character.isWhiteSpace entry.2) =
      some (Text.byteLength run.before, c) := by
    rw [← h.parts, htext, List.cons_append, find?_offsetsFrom _ h.before_solid hblank,
      Nat.zero_add]
  rw [whitespaceSpan?, hfirst]
  show some (Span.mk (Text.byteLength run.before) (Text.byteLength run.before + _)) = _
  rw [hback, length_of_firstRun h]
  rfl

theorem whitespaceSpan?_eq (cs : List Char) :
    whitespaceSpan? cs = (whitespace? cs).map matchSpan := by
  cases hblank : whitespace? cs with
  | none =>
      rw [whitespaceSpan?, find?_offsetsFrom_none _ (whitespace?_eq_none_iff.mp hblank)]
      rfl
  | some run => exact whitespaceSpan?_of_firstRun (whitespace?_eq_some_iff.mp hblank)

/-!
# One more rule
-/

theorem better_again (a b : Candidate) : (a.better b).better b = a.better b := by
  unfold Candidate.better
  by_cases hlt : b.found.before.length < a.found.before.length
  · rw [if_pos hlt, if_neg (Nat.lt_irrefl _)]
  · rw [if_neg hlt, if_neg hlt]

/-- Of two equal candidates the second is never taken. -/
theorem best?_concat_again (found : List Candidate) (candidate : Candidate) :
    best? (found ++ [candidate] ++ [candidate]) = best? (found ++ [candidate]) := by
  cases found with
  | nil =>
      show some (candidate.better candidate) = some candidate
      rw [Candidate.better, if_neg (Nat.lt_irrefl _)]
  | cons first rest =>
      simp only [List.cons_append, best?, List.foldl_append, List.foldl_cons, List.foldl_nil,
        better_again]

theorem best?_candidates_whitespaceRule (rules : List Rule) (cs : List Char) :
    best? (candidates (rules ++ [whitespaceRule]) cs) = best? (candidates rules cs) := by
  unfold candidates
  rw [List.filterMap_append, List.filterMap_cons, find?_whitespaceRule]
  cases whitespace? cs with
  | none => simp
  | some run => exact best?_concat_again _ _

/--
White space is found as the pattern for it finds it, so that a last rule with this
pattern is already there.
-/
theorem whitespace_is_last_rule (text : String) (rules : List Rule) (defaultKind : String) :
    Pattern.ofText? "\\s+" = some whitespacePattern ∧
      (forall cs, whitespace? cs = whitespacePattern.expr.search? none cs ∧
        whitespaceSpan? cs = (whitespacePattern.expr.search? none cs).map matchSpan) ∧
      tokens text (rules ++ [Rule.ofPattern Token.whitespaceKind whitespacePattern]) defaultKind =
        tokens text rules defaultKind := by
  refine ⟨ofText?_whitespacePattern, ?_, ?_⟩
  · intro cs
    rw [search?_whitespacePattern]
    exact ⟨rfl, whitespaceSpan?_eq cs⟩
  · apply tokens_congr
    intro rest _
    exact best?_candidates_whitespaceRule rules rest

end Scan
end FieldGrammar
