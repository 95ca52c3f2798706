import FieldGrammar.Proofs.Scan.Restart
import FieldGrammar.Proofs.Tiling

/-!
# What follows a complete statement

A complete statement ends with the field that completes it.  The scan starts anew
after that field, and the grouping starts anew with the token after it, so what
follows is read as if it were a text of its own.
-/

namespace FieldGrammar

def Mismatch.shift (offset : Nat) (mismatch : Mismatch) : Mismatch :=
  { mismatch with span := mismatch.span.shift offset }

/-- The statement at another offset, with the place of its error. -/
def Statement.shift (offset : Nat) (statement : Statement) : Statement :=
  { statement with
    tokens := statement.tokens.map (Token.shift offset)
    error := statement.error.map (Mismatch.shift offset) }

namespace Matching

/-!
# Grouping does not look at offsets
-/

def Open.shift (offset : Nat) (current : Open) : Open :=
  { current with statement := current.statement.shift offset }

theorem append_shift (config : Config) (offset : Nat) (current : Open) (token : Token)
    (error : Option Mismatch) (filled : Nat) :
    (current.shift offset).append config (token.shift offset)
        (error.map (Mismatch.shift offset)) filled =
      (current.append config token error filled).shift offset := by
  simp [Open.append, Open.shift, Statement.shift]

theorem push_shift (config : Config) (offset : Nat) (current : Open) (token : Token) :
    (current.shift offset).push config (token.shift offset) =
      (current.push config token).shift offset := by
  have hblank : (token.shift offset).isWhitespace = token.isWhitespace := rfl
  have hkind : (token.shift offset).kind = token.kind := rfl
  have hfilled : (current.shift offset).filled = current.filled := rfl
  unfold Open.push
  rw [hblank, hkind, hfilled]
  by_cases hwhite : token.isWhitespace = true
  · rw [if_pos hwhite, if_pos hwhite]
    exact append_shift config offset current token current.statement.error current.filled
  · rw [if_neg hwhite, if_neg hwhite]
    by_cases hexpected : token.kind = (config.expectedAt? current.filled).getD ""
    · rw [if_pos hexpected, if_pos hexpected]
      exact append_shift config offset current token current.statement.error (current.filled + 1)
    · rw [if_neg hexpected, if_neg hexpected]
      exact append_shift config offset current { token with invalid := true }
        (some { expected := _, found := token.kind, span := token.span }) current.filled

theorem statementsFrom_shift (config : Config) (offset : Nat) (current : Open)
    (tokens : List Token) :
    statementsFrom config (current.shift offset) (tokens.map (Token.shift offset)) =
      (statementsFrom config current tokens).map (Statement.shift offset) := by
  induction tokens generalizing current with
  | nil => rfl
  | cons token rest ih =>
      have hstart : Open.start = Open.start.shift offset := rfl
      have hfilled : (current.shift offset).filled = current.filled := rfl
      rw [List.map_cons, statementsFrom, statementsFrom, hfilled]
      split
      · rw [hstart, push_shift, ih, List.map_cons]
        rfl
      · rw [push_shift, ih]

theorem statements_shift (config : Config) (offset : Nat) (tokens : List Token) :
    statements config (tokens.map (Token.shift offset)) =
      (statements config tokens).map (Statement.shift offset) := by
  cases tokens with
  | nil => rfl
  | cons token rest =>
      have hstart : Open.start = Open.start.shift offset := rfl
      rw [List.map_cons, statements, hstart, push_shift, statementsFrom_shift]
      rfl

/-!
# Grouping after a full chunk
-/

/-- The chunks after a full one are the chunks of the tokens after it. -/
theorem chunks_after_full {config : Config} {tokens chunk : List Token}
    {earlier later : List (List Token)}
    (h : chunks config tokens = earlier ++ chunk :: later) (hfull : Full config chunk) :
    chunks config later.flatten = later := by
  have hsplit : chunks config tokens = earlier ++ [chunk] ++ later := by
    rw [h, List.append_assoc]
    rfl
  have hfits : forall part, part ∈ earlier ++ [chunk] -> Fits config part := by
    intro part hpart
    have hmem : part ∈ chunks config tokens := by
      rw [hsplit]
      exact List.mem_append_left later hpart
    exact chunks_fits hmem
  have hclosed : forall part, part ∈ earlier ++ [chunk] -> Full config part := by
    intro part hpart
    rcases List.mem_append.mp hpart with hearlier | hlast
    · have hmem : part ∈ (chunks config tokens).dropLast := by
        rw [h, List.dropLast_append_cons]
        exact List.mem_append_left _ hearlier
      exact chunks_dropLast_full hmem
    · rw [List.mem_singleton.mp hlast]
      exact hfull
  have hflat := chunks_flatten config tokens
  rw [hsplit, List.flatten_append] at hflat
  have hagain := chunks_flatten_append hfits hclosed later.flatten
  rw [hflat, hsplit] at hagain
  exact (List.append_cancel_left hagain).symm

/-- The field that completes a statement is of a kind of the format. -/
theorem last_kind_of_full {config : Config} {initial : List Token} {last : Token}
    (h : (fill config (initial ++ [last])).Invariant config)
    (hfull : Full config (initial ++ [last])) : last.kind ∈ config.format := by
  rcases h.last_field hfull with ⟨before, field, htokens, hfield, _⟩
  have hunflag := fill_tokens_unflag config (initial ++ [last])
  rw [htokens, List.map_append, List.map_append] at hunflag
  have hsame : unflag field = unflag last := by
    simpa using (List.append_inj' hunflag rfl).2
  have hkind : field.kind = last.kind := by
    show (unflag field).kind = (unflag last).kind
    rw [hsame]
  have hmem : field.kind ∈ (fill config (initial ++ [last])).statement.fields.map Token.kind := by
    apply List.mem_map_of_mem
    rw [Statement.fields, htokens]
    simp [hfield]
  rw [h.field_kinds, hkind] at hmem
  exact List.mem_of_mem_take hmem

/-- Grouping starts anew after the field that completes a statement. -/
theorem statements_after_complete {config : Config} {tokens : List Token}
    (hvalid : forall token, token ∈ tokens -> token.invalid = false)
    {before after : List Statement} {statement : Statement}
    (hsplit : statements config tokens = before ++ statement :: after)
    (hcomplete : statement.incomplete = false) :
    exists earlier last rest, tokens = earlier ++ last :: rest ∧ last.kind ∈ config.format ∧
      (before.flatMap Statement.tokens ++ statement.tokens).map unflag = earlier ++ [last] ∧
      after = statements config rest := by
  rw [statements_eq_map_chunks, List.map_eq_append_iff] at hsplit
  rcases hsplit with ⟨parts, others, hchunks, rfl, hothers⟩
  rcases List.map_eq_cons_iff.mp hothers with ⟨chunk, later, rfl, rfl, rfl⟩
  have hmem : chunk ∈ chunks config tokens := by
    rw [hchunks]
    simp
  have hinvariant := chunks_invariant hvalid hmem
  have hfull := (complete_iff_full (chunks_fits hmem)).mp hcomplete
  have hflat := chunks_flatten config tokens
  rw [hchunks, List.flatten_append, List.flatten_cons] at hflat
  rcases List.eq_nil_or_concat chunk with hnil | ⟨initial, last, hlast⟩
  · exact absurd hnil (ne_nil_of_full hfull)
  · rw [List.concat_eq_append] at hlast
    subst hlast
    refine ⟨parts.flatten ++ initial, last, later.flatten, ?_, ?_, ?_, ?_⟩
    · rw [← hflat]
      simp
    · exact last_kind_of_full hinvariant hfull
    · rw [List.map_append, fill_parts_unflag, fill_tokens_unflag, ← List.map_append,
        map_unflag_of_valid, List.append_assoc]
      intro token htoken
      apply hvalid token
      rw [← hflat, ← List.append_assoc]
      exact List.mem_append_left _ htoken
    · rw [statements_eq_map_chunks, chunks_after_full hchunks hfull]

end Matching

/-!
# Statements of a text
-/

theorem parse_after_complete (config : Config) (text : String) (index : Nat)
    (statement : Statement) (hget : (config.parse text)[index]? = some statement)
    (hcomplete : statement.incomplete = false) :
    exists span, statement.span? = some span ∧
      Text.boundary span.stop text.toList = span.stop ∧
      (config.parse (String.ofList (Text.back span.stop text.toList))).map
          (Statement.shift span.stop) =
        (config.parse text).drop (index + 1) := by
  have hsplit := (split_at_index hget).1
  rcases Matching.statements_after_complete (tokens_unflagged config text) hsplit hcomplete with
    ⟨earlier, last, rest, htokens, hkind, hkept, hafter⟩
  -- the statement ends where its last token does
  have htiles := tiles_parse config text
  rw [hsplit, List.flatMap_append, List.flatMap_cons, ← List.append_assoc, tiles_append] at htiles
  rcases htiles with ⟨stop, hfront, _⟩
  rcases tiles_append.mp hfront with ⟨start, _, hstatement⟩
  have hne : statement.tokens ≠ [] :=
    Matching.statement_tokens_ne_nil (List.mem_of_getElem? hget)
  have hstop : last.span.stop = stop := by
    rw [← tiles_map_unflag, hkept, tiles_append] at hfront
    rcases hfront with ⟨mid, _, _, _, hstop⟩
    exact hstop
  subst hstop
  refine ⟨_, span?_of_tiles hne hstatement, ?_, ?_⟩
  · apply (Scan.partition_tokens text config.rules config.defaultKind).stop_boundary last
    show last ∈ config.tokens text
    rw [htokens]
    simp
  · have hname : last.kind ≠ config.defaultKind := by
      rcases List.mem_map.mp (config.wellFormed.format_subset last.kind hkind) with
        ⟨rule, hrule, hname⟩
      rw [← hname]
      exact config.wellFormed.names_ne_default rule hrule
    rw [hafter, Config.parse, ← Matching.statements_shift]
    congr 1
    exact Scan.tokens_after_match htokens hname

/-- A complete statement with a character of two bytes. -/
def accentedStatement : Statement :=
  { tokens :=
      [Token.placed ['a'] Builtin.identifierKind 0, Token.placed ['='] Builtin.comparisonKind 1,
       Token.placed ['"', 'é', '"'] Builtin.valueKind 2]
    error := none
    incomplete := false }

/-- The text after it, in which nothing matches at the front, is read as it is on its own. -/
theorem parse_after_accentedStatement :
    (Builtin.config.parse "a=\"é\"?b=2")[0]? = some accentedStatement ∧
      accentedStatement.span? = some { start := 0, stop := 6 } ∧
      (Builtin.config.parse "?b=2").map (Statement.shift 6) =
        (Builtin.config.parse "a=\"é\"?b=2").drop 1 := by
  have hget : (Builtin.config.parse "a=\"é\"?b=2")[0]? = some accentedStatement := by
    decide +kernel
  have hspan : accentedStatement.span? = some { start := 0, stop := 6 } := by
    decide
  rcases parse_after_complete Builtin.config "a=\"é\"?b=2" 0 accentedStatement hget rfl with
    ⟨span, hsome, _, hrest⟩
  rw [hspan, Option.some.injEq] at hsome
  subst hsome
  exact ⟨hget, hspan, hrest⟩

end FieldGrammar
