import FieldGrammar.Rule

/-!
# Scanning

A text is cut into tokens from left to right.  At each place the match that
starts leftmost in the rest of the text is taken, of the earlier rule where two
start together.  Runs of white space come after all rules.  Text before the
match, or the whole rest when nothing matches, is a token of the default kind.
-/

namespace FieldGrammar
namespace Scan

structure Candidate where
  kind : String
  found : Pattern.Match

/-- The first run of white space. -/
def whitespace? (cs : List Char) : Option Pattern.Match :=
  match cs.dropWhile (!Character.isWhiteSpace ·) with
  | [] => none
  | c :: rest =>
      some
        { before := cs.takeWhile (!Character.isWhiteSpace ·)
          text := (c :: rest).takeWhile Character.isWhiteSpace
          after := (c :: rest).dropWhile Character.isWhiteSpace }

/-- The candidates of all rules in their order, then that of white space. -/
def candidates (rules : List Rule) (cs : List Char) : List Candidate :=
  rules.filterMap (fun rule => (rule.find? cs).map (Candidate.mk rule.name)) ++
    ((whitespace? cs).map (Candidate.mk Token.whitespaceKind)).toList

/-- Of two candidates the second is better only if it starts strictly earlier. -/
def Candidate.better (best other : Candidate) : Candidate :=
  if other.found.before.length < best.found.before.length then other else best

def best? : List Candidate -> Option Candidate
  | [] => none
  | first :: rest => some (rest.foldl Candidate.better first)

/-!
# Progress

Every candidate reads at least one character, so what is left after it is
shorter than what was searched.
-/

theorem whitespace?_after_lt {cs : List Char} {found : Pattern.Match}
    (h : whitespace? cs = some found) : found.after.length < cs.length := by
  unfold whitespace? at h
  split at h
  · cases h
  · rename_i c rest hdrop
    cases h
    have hsuffix : (c :: rest).length ≤ cs.length := by
      rw [← hdrop]
      exact (List.dropWhile_suffix _).length_le
    have hblank : Character.isWhiteSpace c = true := by
      have := List.head?_dropWhile_not (!Character.isWhiteSpace ·) cs
      simpa [hdrop] using this
    have hrest : (rest.dropWhile Character.isWhiteSpace).length ≤ rest.length :=
      (List.dropWhile_suffix _).length_le
    simp [hblank]
    simp at hsuffix
    omega

theorem candidates_after_lt {rules : List Rule} {cs : List Char} {candidate : Candidate}
    (h : candidate ∈ candidates rules cs) : candidate.found.after.length < cs.length := by
  unfold candidates at h
  rw [List.mem_append, List.mem_filterMap] at h
  cases h with
  | inl hrule =>
      obtain ⟨rule, _, hrule⟩ := hrule
      obtain ⟨found, hfound, rfl⟩ := Option.map_eq_some_iff.1 hrule
      exact Pattern.Expr.find?_after_lt hfound
  | inr hblank =>
      rw [Option.mem_toList] at hblank
      obtain ⟨found, hfound, rfl⟩ := Option.map_eq_some_iff.1 hblank
      exact whitespace?_after_lt hfound

theorem foldl_better_mem (first : Candidate) (rest : List Candidate) :
    rest.foldl Candidate.better first ∈ first :: rest := by
  induction rest generalizing first with
  | nil => simp
  | cons other rest ih =>
      rw [List.foldl_cons]
      by_cases hearlier : other.found.before.length < first.found.before.length
      · have hbetter : first.better other = other := if_pos hearlier
        rw [hbetter]
        exact List.mem_cons_of_mem first (ih other)
      · have hbetter : first.better other = first := if_neg hearlier
        have hmem := ih first
        rw [hbetter]
        rw [List.mem_cons] at hmem ⊢
        exact hmem.imp id (List.mem_cons_of_mem other)

theorem best?_mem {found : List Candidate} {candidate : Candidate}
    (h : best? found = some candidate) : candidate ∈ found := by
  cases found with
  | nil => cases h
  | cons first rest =>
      cases h
      exact foldl_better_mem first rest

/-!
# Tokens of a text
-/

/-- The tokens of the rest of a text, which starts at the given offset. -/
def tokensFrom (rules : List Rule) (defaultKind : String) (start : Nat) (cs : List Char) :
    List Token :=
  if cs.isEmpty then []
  else
    match hbest : best? (candidates rules cs) with
    | none => [Token.placed cs defaultKind start]
    | some candidate =>
        have _ : candidate.found.after.length < cs.length := candidates_after_lt (best?_mem hbest)
        let found := candidate.found
        let place := start + Text.byteLength found.before
        let rest :=
          Token.placed found.text candidate.kind place ::
            tokensFrom rules defaultKind (place + Text.byteLength found.text) found.after
        if found.before.isEmpty then rest
        else Token.placed found.before defaultKind start :: rest
termination_by cs.length

def tokens (text : String) (rules : List Rule) (defaultKind : String) : List Token :=
  tokensFrom rules defaultKind 0 text.toList

end Scan
end FieldGrammar
