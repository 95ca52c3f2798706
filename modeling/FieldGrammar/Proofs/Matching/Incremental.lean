import FieldGrammar.Proofs.Matching.Attribution

/-!
# Grouping goes on where it stopped

All that the grouping remembers on its way can be told from the statements that it
has written: a complete statement is closed for good, and an incomplete one gives
its tokens back.  The flags on these tokens were set on the first pass, and setting
them once more changes nothing.
-/

namespace FieldGrammar
namespace Matching

/-!
# The same tokens once more

A token is kept in its statement with its flag set or as it came.  Put in at the
same place again, it does what it did.
-/

/-- The tokens as they stand in the statement that they fill. -/
def kept (config : Config) (tokens : List Token) : List Token :=
  (fill config tokens).statement.tokens

theorem kept_concat (config : Config) (tokens : List Token) (token : Token) :
    exists again, kept config (tokens ++ [token]) = kept config tokens ++ [again] ∧
      (fill config tokens).push config again = fill config (tokens ++ [token]) := by
  rcases push_eq_append config (fill config tokens) token with
    ⟨again, error, filled, hpush, _, hagain⟩
  refine ⟨again, ?_, ?_⟩
  · rw [kept, fill_concat, hpush]
    rfl
  · rw [hagain, fill_concat]

theorem fill_kept (config : Config) (tokens : List Token) :
    fill config (kept config tokens) = fill config tokens := by
  induction tokens using List.reverseRecOn with
  | nil => rfl
  | append_singleton others token ih =>
      rcases kept_concat config others token with ⟨again, hkept, hpush⟩
      rw [hkept, fill_concat, ih, hpush]

theorem fits_kept {config : Config} {tokens : List Token} (h : Fits config tokens) :
    Fits config (kept config tokens) := by
  induction tokens using List.reverseRecOn with
  | nil => exact fits_nil config
  | append_singleton others token ih =>
      rcases fits_concat.mp h with ⟨hothers, hopen⟩
      rcases kept_concat config others token with ⟨again, hkept, _⟩
      rw [hkept, fits_concat, fill_kept]
      exact ⟨ih hothers, hopen⟩

theorem full_kept {config : Config} {tokens : List Token} (h : Full config tokens) :
    Full config (kept config tokens) := by
  rw [Full, fill_kept]
  exact h

theorem kept_ne_nil {config : Config} {tokens : List Token} (h : tokens ≠ []) :
    kept config tokens ≠ [] := by
  rw [← List.length_pos_iff, kept, fill_tokens_length, List.length_pos_iff]
  exact h

/-!
# The open statement

The tokens are those of full chunks and then those of the last chunk.  More tokens
only go to the last chunk, or come after it.
-/

theorem statements_flatten_append {config : Config} {parts : List (List Token)}
    (hfits : forall part, part ∈ parts -> Fits config part)
    (hfull : forall part, part ∈ parts -> Full config part) (rest : List Token) :
    statements config (parts.flatten ++ rest) =
      parts.map (fun part => (fill config part).statement) ++ statements config rest := by
  rw [statements_eq_map_chunks, chunks_flatten_append hfits hfull, List.map_append,
    ← statements_eq_map_chunks]

theorem statements_append_fits {config : Config} {chunk : List Token} (hne : chunk ≠ [])
    (hfits : Fits config chunk) (rest : List Token) :
    statements config (chunk ++ rest) = statementsFrom config (fill config chunk) rest := by
  rw [statements_eq_map_chunks, chunks_append_fits hne hfits, statementsFrom_fill]

theorem statements_kept_append {config : Config} {chunk : List Token} (hne : chunk ≠ [])
    (hfits : Fits config chunk) (rest : List Token) :
    statements config (kept config chunk ++ rest) = statements config (chunk ++ rest) := by
  rw [statements_append_fits (kept_ne_nil hne) (fits_kept hfits), fill_kept,
    statements_append_fits hne hfits]

theorem statements_eq_nil_iff {config : Config} {tokens : List Token} :
    statements config tokens = [] <-> tokens = [] := by
  constructor
  · intro h
    have hflat := chunks_flatten config tokens
    rw [statements_eq_map_chunks, List.map_eq_nil_iff] at h
    rw [← hflat, h]
    rfl
  · rintro rfl
    rfl

/-- Full chunks, and then a last one that takes no token too many. -/
structure OpenAt (config : Config) (parts : List (List Token)) (chunk : List Token) : Prop where
  parts_fit : forall part, part ∈ parts -> Fits config part
  parts_full : forall part, part ∈ parts -> Full config part
  chunk_ne_nil : chunk ≠ []
  chunk_fits : Fits config chunk

theorem openAt_of_concat {config : Config} {tokens : List Token} {init : List Statement}
    {last : Statement} (h : statements config tokens = init ++ [last]) :
    exists parts chunk, tokens = parts.flatten ++ chunk ∧ OpenAt config parts chunk ∧
      init = parts.map (fun part => (fill config part).statement) ∧
      last = (fill config chunk).statement := by
  rw [statements_eq_map_chunks] at h
  rcases List.map_eq_append_iff.mp h with ⟨parts, others, hchunks, rfl, hothers⟩
  rcases List.map_eq_singleton_iff.mp hothers with ⟨chunk, rfl, rfl⟩
  refine ⟨parts, chunk, ?_, ?_, rfl, rfl⟩
  · rw [← chunks_flatten config tokens, hchunks, List.flatten_append, List.flatten_singleton]
  · constructor
    · intro part hpart
      exact chunks_fits (hchunks ▸ List.mem_append_left [chunk] hpart)
    · intro part hpart
      apply chunks_dropLast_full
      rw [hchunks, List.dropLast_concat]
      exact hpart
    · exact mem_chunks_ne_nil (hchunks ▸ List.mem_append_right parts (by simp))
    · exact chunks_fits (hchunks ▸ List.mem_append_right parts (by simp))

theorem OpenAt.kept {config : Config} {parts : List (List Token)} {chunk : List Token}
    (h : OpenAt config parts chunk) :
    OpenAt config (parts.map (Matching.kept config)) (Matching.kept config chunk) where
  parts_fit := by
    intro part hpart
    rcases List.mem_map.mp hpart with ⟨old, hold, rfl⟩
    exact fits_kept (h.parts_fit old hold)
  parts_full := by
    intro part hpart
    rcases List.mem_map.mp hpart with ⟨old, hold, rfl⟩
    exact full_kept (h.parts_full old hold)
  chunk_ne_nil := kept_ne_nil h.chunk_ne_nil
  chunk_fits := fits_kept h.chunk_fits

/-!
# Going on with more tokens
-/

/-- The last statement gives back the tokens to go on with, complete or not. -/
theorem statements_append_resumed {config : Config} {xs : List Token} {init : List Statement}
    {last : Statement} (h : statements config xs = init ++ [last]) (ys : List Token) :
    statements config (xs ++ ys) = init ++ statements config (last.tokens ++ ys) := by
  rcases openAt_of_concat h with ⟨parts, chunk, rfl, hopen, rfl, rfl⟩
  rw [List.append_assoc, statements_flatten_append hopen.parts_fit hopen.parts_full,
    ← statements_kept_append hopen.chunk_ne_nil hopen.chunk_fits]
  rfl

/-- After a complete statement, more tokens form statements of their own. -/
theorem statements_append_closed {config : Config} {xs : List Token}
    (h : forall init last, statements config xs = init ++ [last] -> last.incomplete = false)
    (ys : List Token) :
    statements config (xs ++ ys) = statements config xs ++ statements config ys := by
  rcases List.eq_nil_or_concat (statements config xs) with hnil | ⟨init, last, hconcat⟩
  · rw [hnil, statements_eq_nil_iff.mp hnil]
    rfl
  · rw [List.concat_eq_append] at hconcat
    have hcomplete := h init last hconcat
    rcases openAt_of_concat hconcat with ⟨parts, chunk, rfl, hopen, rfl, rfl⟩
    have hfull := (complete_iff_full hopen.chunk_fits).mp hcomplete
    rw [hconcat, List.append_assoc, statements_flatten_append hopen.parts_fit hopen.parts_full,
      statements_append_full hopen.chunk_ne_nil hopen.chunk_fits hfull, List.append_assoc]
    rfl

/-- The statements that kept tokens form are those that the tokens formed at first. -/
theorem map_fill_kept (config : Config) (parts : List (List Token)) :
    (parts.map (kept config)).map (fun part => (fill config part).statement) =
      parts.map (fun part => (fill config part).statement) := by
  rw [List.map_map]
  apply List.map_congr_left
  intro part _
  rw [Function.comp_apply, fill_kept]

theorem statements_again (config : Config) (tokens : List Token) :
    statements config ((statements config tokens).flatMap Statement.tokens) =
      statements config tokens := by
  rcases List.eq_nil_or_concat (statements config tokens) with hnil | ⟨init, last, hconcat⟩
  · rw [hnil]
    rfl
  · rw [List.concat_eq_append] at hconcat
    rcases openAt_of_concat hconcat with ⟨parts, chunk, _, hopen, rfl, rfl⟩
    have htokens : (statements config tokens).flatMap Statement.tokens =
        (parts.map (kept config)).flatten ++ (kept config chunk ++ []) := by
      rw [hconcat, List.flatMap_append, List.flatMap_map, List.append_nil, ← List.flatMap_def,
        List.flatMap_singleton]
      rfl
    rw [htokens, statements_flatten_append hopen.kept.parts_fit hopen.kept.parts_full,
      map_fill_kept, statements_kept_append hopen.chunk_ne_nil hopen.chunk_fits,
      statements_append_fits hopen.chunk_ne_nil hopen.chunk_fits, hconcat]
    rfl

theorem statements_dropLast_prefix (config : Config) (xs ys : List Token) :
    (statements config xs).dropLast <+: statements config (xs ++ ys) := by
  rcases List.eq_nil_or_concat (statements config xs) with hnil | ⟨init, last, hconcat⟩
  · rw [hnil]
    exact List.nil_prefix
  · rw [List.concat_eq_append] at hconcat
    rw [hconcat, List.dropLast_concat, statements_append_resumed hconcat]
    exact List.prefix_append init _

/-- Tokens that come later are grouped as if they had come at once. -/
structure Incremental (config : Config) (xs ys : List Token) : Prop where
  closed :
    (forall init last, statements config xs = init ++ [last] -> last.incomplete = false) ->
      statements config (xs ++ ys) = statements config xs ++ statements config ys
  resumed : forall init last, statements config xs = init ++ [last] ->
    statements config (xs ++ ys) = init ++ statements config (last.tokens ++ ys)
  again :
    statements config ((statements config xs).flatMap Statement.tokens) = statements config xs
  earlier_kept : (statements config xs).dropLast <+: statements config (xs ++ ys)

theorem statements_incremental (config : Config) (xs ys : List Token) :
    Incremental config xs ys where
  closed h := statements_append_closed h ys
  resumed _ _ h := statements_append_resumed h ys
  again := statements_again config xs
  earlier_kept := statements_dropLast_prefix config xs ys

/-- The value that stands where a name is expected, as its statement keeps it. -/
def flaggedValue : Statement :=
  { tokens :=
      [{ Token.placed ['1'] Builtin.valueKind 0 with invalid := true },
       Token.placed [' '] Token.whitespaceKind 1]
    error :=
      some { expected := Builtin.identifierKind, found := Builtin.valueKind,
             span := { start := 0, stop := 1 } }
    incomplete := true }

theorem strayValueTokens_resumed :
    statements Builtin.config (strayValueTokens.take 2) = [] ++ [flaggedValue] ∧
      flaggedValue.incomplete = true ∧
      statements Builtin.config (strayValueTokens.take 2 ++ strayValueTokens.drop 2) =
        [] ++ statements Builtin.config (flaggedValue.tokens ++ strayValueTokens.drop 2) := by
  have hopen : statements Builtin.config (strayValueTokens.take 2) = [] ++ [flaggedValue] := by
    decide
  have hincremental := statements_incremental Builtin.config (strayValueTokens.take 2)
    (strayValueTokens.drop 2)
  exact ⟨hopen, rfl, hincremental.resumed [] flaggedValue hopen⟩

end Matching
end FieldGrammar
