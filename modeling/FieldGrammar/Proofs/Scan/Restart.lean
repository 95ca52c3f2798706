import FieldGrammar.Builtin
import FieldGrammar.Proofs.Scan.Leftmost
import FieldGrammar.Proofs.Scan.Partition

/-!
# Scanning starts anew after a match

The scan looks at nothing but the text that is left, and where a match ends is a
place that it starts from.  So the tokens after a token of a rule, or of white
space, are the tokens of the text that is left, moved to where it stands.
-/

namespace FieldGrammar

/-!
# Moving to another offset
-/

def Span.shift (offset : Nat) (span : Span) : Span :=
  { start := offset + span.start, stop := offset + span.stop }

def Token.shift (offset : Nat) (token : Token) : Token :=
  { token with span := token.span.shift offset }

namespace Scan

theorem placed_shift (offset start : Nat) (cs : List Char) (kind : String) :
    (Token.placed cs kind start).shift offset = Token.placed cs kind (offset + start) := by
  simp [Token.placed, Token.shift, Span.shift, Nat.add_assoc]

theorem layOut_shift (offset start : Nat) (xs : List Piece) :
    (layOut start xs).map (Token.shift offset) = layOut (offset + start) xs := by
  induction xs generalizing start with
  | nil => rfl
  | cons piece rest ih =>
      rw [layOut, layOut, List.map_cons, placed_shift, ih, Nat.add_assoc]

/-!
# What a piece can be

A piece is a match, or it is the text up to the next match.  The first run of white
space is a candidate like any other, so no white space stands in such a text.
-/

theorem before_solid_of_best? {rules : List Rule} {cs : List Char} {candidate : Candidate}
    (h : best? (candidates rules cs) = some candidate) :
    forall c, c ∈ candidate.found.before -> Character.isWhiteSpace c = false := by
  have hparts := (candidates_readsIn (best?_mem h)).parts
  cases hblank : whitespace? cs with
  | none =>
      intro c hc
      apply whitespace?_eq_none_iff.mp hblank
      rw [← hparts]
      exact List.mem_append_left _ hc
  | some run =>
      have hrun := whitespace?_eq_some_iff.mp hblank
      have hmem : { kind := Token.whitespaceKind, found := run } ∈ candidates rules cs :=
        mem_candidates.mpr (Or.inr ⟨rfl, hblank⟩)
      have hearlier : candidate.found.before <+: run.before :=
        List.prefix_of_prefix_length_le ⟨_, hparts⟩ ⟨_, hrun.parts⟩ (best?_le h hmem)
      intro c hc
      exact hrun.before_solid c (hearlier.subset hc)

theorem gap_split {defaultKind : String} {chars : List Char} {before after : List Piece}
    {piece : Piece} (h : gap defaultKind chars = before ++ piece :: after) :
    piece = { chars := chars, kind := defaultKind } ∧ after = [] := by
  cases chars with
  | nil =>
      cases before <;> cases h
  | cons c rest =>
      rcases List.append_eq_singleton_iff.mp h.symm with ⟨_, hone⟩ | ⟨_, hnil⟩
      · cases hone
        exact ⟨rfl, rfl⟩
      · cases hnil

/-- The piece is a match, and the scan goes on with the text after it. -/
def MatchPiece (rules : List Rule) (defaultKind : String) (piece : Piece)
    (after : List Piece) : Prop :=
  exists rest candidate, candidate ∈ candidates rules rest ∧
    piece = { chars := candidate.found.text, kind := candidate.kind } ∧
      after = pieces rules defaultKind candidate.found.after

/-- The piece is text that no match covers, up to a match or to the end. -/
structure GapPiece (rules : List Rule) (defaultKind : String) (piece : Piece)
    (after : List Piece) : Prop where
  kind : piece.kind = defaultKind
  solid : forall c, c ∈ piece.chars -> Character.isWhiteSpace c = false
  next : forall following others, after = following :: others ->
    MatchPiece rules defaultKind following others

theorem pieces_split {rules : List Rule} {defaultKind : String} {cs : List Char}
    {before after : List Piece} {piece : Piece}
    (h : pieces rules defaultKind cs = before ++ piece :: after) :
    MatchPiece rules defaultKind piece after ∨ GapPiece rules defaultKind piece after := by
  fun_induction pieces rules defaultKind cs generalizing before with
  | case1 cs hempty =>
      cases before <;> cases h
  | case2 cs hcs hbest =>
      rcases List.append_eq_singleton_iff.mp h.symm with ⟨_, hone⟩ | ⟨_, hnil⟩
      · cases hone
        refine Or.inr ⟨rfl, (best?_candidates_eq_none_iff.mp hbest).2, ?_⟩
        intro following others hafter
        cases hafter
      · cases hnil
  | case3 cs hcs candidate hbest hlt ih =>
      have hmatch : MatchPiece rules defaultKind
          { chars := candidate.found.text, kind := candidate.kind }
          (pieces rules defaultKind candidate.found.after) :=
        ⟨cs, candidate, best?_mem hbest, rfl, rfl⟩
      rcases List.append_eq_append_iff.mp h with ⟨more, _, hrest⟩ | ⟨more, hgap, hrest⟩
      · cases more with
        | nil =>
            cases hrest
            exact Or.inl hmatch
        | cons first others =>
            rw [List.cons_append, List.cons.injEq] at hrest
            exact ih hrest.2
      · cases more with
        | nil =>
            cases hrest
            exact Or.inl hmatch
        | cons first others =>
            -- the gap is one piece, and the match comes after it
            rw [List.cons_append, List.cons.injEq] at hrest
            rcases hrest with ⟨rfl, rfl⟩
            rcases gap_split hgap with ⟨rfl, rfl⟩
            refine Or.inr ⟨rfl, before_solid_of_best? hbest, ?_⟩
            intro following others hafter
            cases hafter
            exact hmatch

/-!
# The pieces after a match

Text of the default kind ends where a match starts, and the scan never stands
there.  Every other piece is a match.
-/

theorem match_of_split {rules : List Rule} {defaultKind : String} {cs : List Char}
    {before after : List Piece} {piece : Piece}
    (h : pieces rules defaultKind cs = before ++ piece :: after)
    (hkind : piece.kind ≠ defaultKind) : MatchPiece rules defaultKind piece after := by
  rcases pieces_split h with hmatch | hgap
  · exact hmatch
  · exact absurd hgap.kind hkind

theorem pieces_after_match {rules : List Rule} {defaultKind : String} {cs : List Char}
    {before after : List Piece} {piece : Piece}
    (h : pieces rules defaultKind cs = before ++ piece :: after)
    (hkind : piece.kind ≠ defaultKind) :
    pieces rules defaultKind (after.flatMap Piece.chars) = after := by
  rcases match_of_split h hkind with ⟨rest, candidate, _, _, rfl⟩
  rw [pieces_chars]

/-- A token of the scan is a piece, and the tokens after it are the pieces after that one. -/
theorem tokens_split {text : String} {rules : List Rule} {defaultKind : String}
    {before after : List Token} {token : Token}
    (h : tokens text rules defaultKind = before ++ token :: after) :
    exists earlier piece later,
      pieces rules defaultKind text.toList = earlier ++ piece :: later ∧
        token = Token.placed piece.chars piece.kind
          (Text.byteLength (earlier.flatMap Piece.chars)) ∧
        after = layOut token.span.stop later := by
  rw [tokens_eq_layOut] at h
  rcases layOut_eq_append h with ⟨earlier, zs, hpieces, _, hrest⟩
  cases zs with
  | nil => cases hrest
  | cons piece later =>
      rw [layOut, List.cons.injEq, Nat.zero_add] at hrest
      rcases hrest with ⟨rfl, rfl⟩
      exact ⟨earlier, piece, later, hpieces, rfl, rfl⟩

theorem tokens_after_match {text : String} {rules : List Rule} {defaultKind : String}
    {before after : List Token} {token : Token}
    (h : tokens text rules defaultKind = before ++ token :: after)
    (hkind : token.kind ≠ defaultKind) :
    (tokens (String.ofList (Text.back token.span.stop text.toList)) rules defaultKind).map
      (Token.shift token.span.stop) = after := by
  rcases tokens_split h with ⟨earlier, piece, later, hpieces, rfl, rfl⟩
  have hchars := pieces_chars rules defaultKind text.toList
  rw [hpieces, List.flatMap_append, List.flatMap_cons, ← List.append_assoc] at hchars
  have hcut : Text.back
      (Token.placed piece.chars piece.kind
        (Text.byteLength (earlier.flatMap Piece.chars))).span.stop text.toList =
      later.flatMap Piece.chars := by
    rw [← hchars]
    show Text.back (Text.byteLength (earlier.flatMap Piece.chars) +
      Text.byteLength piece.chars) _ = _
    rw [← Text.byteLength_append, Text.back_byteLength_append]
  rw [hcut, tokens_eq_layOut, String.toList_ofList, pieces_after_match hpieces hkind,
    layOut_shift, Nat.add_zero]

/--
The place where a match ends is a boundary, and the tokens after it are those of the
text from there on.  That no rule has the name of the default kind is not asked for: a
token of any other kind is a match already.
-/
theorem rescan_after_token (text : String) (rules : List Rule) (defaultKind : String)
    (before after : List Token) (token : Token)
    (h : tokens text rules defaultKind = before ++ token :: after)
    (hkind : token.kind ≠ defaultKind) :
    Text.boundary token.span.stop text.toList = token.span.stop ∧
      (tokens (String.ofList (Text.back token.span.stop text.toList)) rules defaultKind).map
        (Token.shift token.span.stop) = after := by
  constructor
  · apply (partition_tokens text rules defaultKind).stop_boundary token
    rw [h]
    exact List.mem_append_right before List.mem_cons_self
  · exact tokens_after_match h hkind

/-- The name is found where the number ends, although names are only read at the start. -/
theorem rescan_after_number :
    tokens "é1a" Builtin.rules Token.unknownKind =
        [Token.placed ['é'] Token.unknownKind 0] ++ Token.placed ['1'] Builtin.valueKind 2 ::
          [Token.placed ['a'] Builtin.identifierKind 3] ∧
      (tokens "a" Builtin.rules Token.unknownKind).map (Token.shift 3) =
        [Token.placed ['a'] Builtin.identifierKind 3] := by
  have htokens : tokens "é1a" Builtin.rules Token.unknownKind =
      [Token.placed ['é'] Token.unknownKind 0] ++ Token.placed ['1'] Builtin.valueKind 2 ::
        [Token.placed ['a'] Builtin.identifierKind 3] := by
    decide +kernel
  exact ⟨htokens, (rescan_after_token _ _ _ _ _ _ htokens (by decide)).2⟩

/-- After text of the default kind the scan does not start anew: a rule that reads only at
the start finds more there than the scan did. -/
example :
    let rules :=
      [Rule.ofPattern "word"
        { text := "^[a-z]+"
          expr := .seq (.look .textStart) (.times (.read (.range 'a' 'z')) 1 none true) },
      Rule.ofPattern "letter" { text := "b", expr := .read (.range 'b' 'b') }]
    (tokens "?bc" rules Token.unknownKind).map Token.kind =
        [Token.unknownKind, "letter", "word"] ∧
      (tokens "bc" rules Token.unknownKind).map Token.kind = ["word"] := by
  decide +kernel

/-!
# White space

A run of white space is taken as a whole, so no white space follows it.
-/

section WhiteSpace

variable {rules : List Rule} {defaultKind : String} {cs : List Char}
  {before after : List Piece} {piece : Piece}

/-- No rule reads white space under its name, so a piece of that kind is a first run. -/
theorem run_of_split
    (hnames : forall rule, rule ∈ rules -> rule.name ≠ Token.whitespaceKind)
    (hdefault : defaultKind ≠ Token.whitespaceKind)
    (h : pieces rules defaultKind cs = before ++ piece :: after)
    (hkind : piece.kind = Token.whitespaceKind) :
    exists rest run, FirstRun rest run ∧ piece.chars = run.text ∧
      after = pieces rules defaultKind run.after := by
  have hmatch : piece.kind ≠ defaultKind := by
    rw [hkind]
    exact hdefault.symm
  rcases match_of_split h hmatch with ⟨rest, candidate, hmem, rfl, rfl⟩
  rcases mem_candidates.mp hmem with ⟨rule, hrule, hname, _⟩ | ⟨_, hblank⟩
  · exact absurd (hname.trans hkind) (hnames rule hrule)
  · exact ⟨rest, candidate.found, whitespace?_eq_some_iff.mp hblank, rfl, rfl⟩

theorem pieces_after_whitespace
    (hnames : forall rule, rule ∈ rules -> rule.name ≠ Token.whitespaceKind)
    (hdefault : defaultKind ≠ Token.whitespaceKind)
    (h : pieces rules defaultKind cs = before ++ piece :: after)
    (hkind : piece.kind = Token.whitespaceKind) :
    forall c rest, after.flatMap Piece.chars = c :: rest ->
      Character.isWhiteSpace c = false := by
  rcases run_of_split hnames hdefault h hkind with ⟨rest, run, hrun, _, rfl⟩
  rw [pieces_chars]
  exact hrun.after_solid

end WhiteSpace

end Scan
end FieldGrammar
