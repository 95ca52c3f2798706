import FieldGrammar.Proofs.Scan.Restart
import FieldGrammar.Proofs.Tiling

/-!
# Text between fields

White space and text that no rule covers come out of the scan in one form only.
Text of the default kind goes up to the next match or white space, and white space
goes as far as it can.  Neither ever fills a field of a statement.
-/

namespace FieldGrammar
namespace Scan

/-!
# Text that no rule covers

Where no rule has the name of the default kind, only text that no match covers is of
this kind.
-/

section Default

variable {rules : List Rule} {defaultKind : String}

theorem MatchPiece.kind_ne (hnames : forall rule, rule ∈ rules -> rule.name ≠ defaultKind)
    (hdefault : defaultKind ≠ Token.whitespaceKind) {piece : Piece} {after : List Piece}
    (h : MatchPiece rules defaultKind piece after) : piece.kind ≠ defaultKind := by
  rcases h with ⟨rest, candidate, hmem, rfl, _⟩
  rcases mem_candidates.mp hmem with ⟨rule, hrule, hname, _⟩ | ⟨hkind, _⟩
  · rw [← hname]
    exact hnames rule hrule
  · rw [hkind]
    exact hdefault.symm

theorem gap_of_split (hnames : forall rule, rule ∈ rules -> rule.name ≠ defaultKind)
    (hdefault : defaultKind ≠ Token.whitespaceKind) {cs : List Char}
    {before after : List Piece} {piece : Piece}
    (h : pieces rules defaultKind cs = before ++ piece :: after)
    (hkind : piece.kind = defaultKind) : GapPiece rules defaultKind piece after := by
  rcases pieces_split h with hmatch | hgap
  · exact absurd hkind (hmatch.kind_ne hnames hdefault)
  · exact hgap

end Default

theorem layOut_eq_cons {start : Nat} {xs : List Piece} {token : Token} {after : List Token}
    (h : layOut start xs = token :: after) :
    exists piece later, xs = piece :: later ∧
      token = Token.placed piece.chars piece.kind start := by
  cases xs with
  | nil => cases h
  | cons piece later =>
      rw [layOut, List.cons.injEq] at h
      exact ⟨piece, later, rfl, h.1.symm⟩

end Scan

/-!
# The tokens of a text
-/

section Tokens

variable {config : Config} {text : String} {before after : List Token} {token : Token}

theorem default_token_solid (h : config.tokens text = before ++ token :: after)
    (hkind : token.kind = config.defaultKind) :
    forall c, c ∈ token.text.toList -> Character.isWhiteSpace c = false := by
  rcases Scan.tokens_split h with ⟨earlier, piece, later, hpieces, rfl, _⟩
  intro c hc
  rw [Token.placed, String.toList_ofList] at hc
  exact (Scan.gap_of_split config.wellFormed.names_ne_default
    config.wellFormed.default_ne_whitespace hpieces hkind).solid c hc

theorem default_token_apart {next : Token}
    (h : config.tokens text = before ++ token :: next :: after)
    (hkind : token.kind = config.defaultKind) : next.kind ≠ config.defaultKind := by
  rcases Scan.tokens_split h with ⟨earlier, piece, later, hpieces, rfl, hafter⟩
  rcases Scan.layOut_eq_cons hafter.symm with ⟨other, others, rfl, rfl⟩
  have hgap := Scan.gap_of_split config.wellFormed.names_ne_default
    config.wellFormed.default_ne_whitespace hpieces hkind
  exact (hgap.next other others rfl).kind_ne config.wellFormed.names_ne_default
    config.wellFormed.default_ne_whitespace

theorem white_token_blank (h : config.tokens text = before ++ token :: after)
    (hkind : token.kind = Token.whitespaceKind) :
    forall c, c ∈ token.text.toList -> Character.isWhiteSpace c = true := by
  rcases Scan.tokens_split h with ⟨earlier, piece, later, hpieces, rfl, _⟩
  rcases Scan.run_of_split config.wellFormed.names_ne_whitespace
    config.wellFormed.default_ne_whitespace hpieces hkind with ⟨rest, run, hrun, hchars, _⟩
  intro c hc
  rw [Token.placed, String.toList_ofList, hchars] at hc
  exact hrun.text_blank c hc

/-- No white space comes after white space. -/
theorem white_token_stops {next : Token}
    (h : config.tokens text = before ++ token :: next :: after)
    (hkind : token.kind = Token.whitespaceKind) :
    exists c rest, next.text.toList = c :: rest ∧ Character.isWhiteSpace c = false := by
  rcases Scan.tokens_split h with ⟨earlier, piece, later, hpieces, rfl, hafter⟩
  rcases Scan.layOut_eq_cons hafter.symm with ⟨other, others, rfl, rfl⟩
  have hstops := Scan.pieces_after_whitespace config.wellFormed.names_ne_whitespace
    config.wellFormed.default_ne_whitespace hpieces hkind
  cases hchars : other.chars with
  | nil =>
      have hmem : other ∈ Scan.pieces config.rules config.defaultKind text.toList := by
        rw [hpieces]
        simp
      exact absurd hchars (Scan.pieces_chars_ne_nil hmem)
  | cons c rest =>
      refine ⟨c, rest, ?_, ?_⟩
      · rw [Token.placed, String.toList_ofList]
      · apply hstops c (rest ++ others.flatMap Scan.Piece.chars)
        rw [List.flatMap_cons, hchars, List.cons_append]

theorem white_token_apart {next : Token}
    (h : config.tokens text = before ++ token :: next :: after)
    (hkind : token.kind = Token.whitespaceKind) : next.kind ≠ Token.whitespaceKind := by
  intro hnext
  rcases white_token_stops h hkind with ⟨c, rest, htext, hsolid⟩
  have hblank : Character.isWhiteSpace c = true := by
    rw [List.append_cons] at h
    apply white_token_blank h hnext
    rw [htext]
    exact List.mem_cons_self
  rw [hsolid] at hblank
  cases hblank

theorem white_token_followed (h : config.tokens text = before ++ token :: after)
    (hkind : token.kind = Token.whitespaceKind) :
    (after = [] ∧ token.span.stop = text.utf8ByteSize) ∨
      exists next others c rest, after = next :: others ∧ next.text.toList = c :: rest ∧
        Character.isWhiteSpace c = false := by
  cases after with
  | nil =>
      have hpartition := Scan.partition_tokens text config.rules config.defaultKind
      exact Or.inl ⟨rfl, hpartition.last_stop before token h⟩
  | cons next others =>
      rcases white_token_stops h hkind with ⟨c, rest, htext, hsolid⟩
      exact Or.inr ⟨next, others, c, rest, rfl, htext, hsolid⟩

end Tokens

/-!
# The statements of a text
-/

theorem Config.isFiller_of_mem_format {config : Config} {kind : String}
    (h : kind ∈ config.format) : config.isFiller kind = false := by
  rcases List.mem_map.mp (config.wellFormed.format_subset kind h) with ⟨rule, hrule, rfl⟩
  have hwhite := config.wellFormed.names_ne_whitespace rule hrule
  have hdefault := config.wellFormed.names_ne_default rule hrule
  simp [Config.isFiller, hwhite, hdefault]

theorem default_token_flagged {config : Config} {text : String} {statement : Statement}
    (hstatement : statement ∈ config.parse text) {token : Token}
    (htoken : token ∈ statement.tokens) (hkind : token.kind = config.defaultKind) :
    token.invalid = true := by
  have hformed := Matching.statements_wellFormed (tokens_unflagged config text) hstatement
  rcases List.append_of_mem htoken with ⟨before, after, hsplit⟩
  have hsolid : token.isWhitespace = false := by
    rw [Token.isWhitespace, hkind]
    exact beq_false_of_ne config.wellFormed.default_ne_whitespace
  apply ((hformed.flags before token after hsplit).invalid_iff hsolid).mpr
  intro hexpected
  have hfiller := Config.isFiller_of_mem_format (List.mem_of_getElem? hexpected)
  rw [hkind] at hfiller
  simp [Config.isFiller] at hfiller

theorem field_not_filler {config : Config} {text : String} {statement : Statement}
    (hstatement : statement ∈ config.parse text) {token : Token}
    (htoken : token ∈ statement.fields) : config.isFiller token.kind = false := by
  have hformed := Matching.statements_wellFormed (tokens_unflagged config text) hstatement
  apply Config.isFiller_of_mem_format
  have hkind : token.kind ∈ statement.fields.map Token.kind := List.mem_map_of_mem htoken
  rw [hformed.field_kinds] at hkind
  exact List.mem_of_mem_take hkind

/-- The one form of the text between fields. -/
structure FillerNormal (config : Config) (text : String) : Prop where
  default_solid : forall token, token ∈ config.tokens text ->
    token.kind = config.defaultKind ->
    forall c, c ∈ token.text.toList -> Character.isWhiteSpace c = false
  default_apart : forall before token next after,
    config.tokens text = before ++ token :: next :: after ->
    token.kind = config.defaultKind -> next.kind ≠ config.defaultKind
  white_blank : forall token, token ∈ config.tokens text ->
    token.kind = Token.whitespaceKind ->
    forall c, c ∈ token.text.toList -> Character.isWhiteSpace c = true
  white_stops : forall before token after, config.tokens text = before ++ token :: after ->
    token.kind = Token.whitespaceKind ->
    (after = [] ∧ token.span.stop = text.utf8ByteSize) ∨
      exists next others c rest, after = next :: others ∧ next.text.toList = c :: rest ∧
        Character.isWhiteSpace c = false
  white_apart : forall before token next after,
    config.tokens text = before ++ token :: next :: after ->
    token.kind = Token.whitespaceKind -> next.kind ≠ Token.whitespaceKind
  default_flagged : forall statement, statement ∈ config.parse text ->
    forall token, token ∈ statement.tokens -> token.kind = config.defaultKind ->
    token.invalid = true
  fields_not_filler : forall statement, statement ∈ config.parse text ->
    forall token, token ∈ statement.fields -> config.isFiller token.kind = false

theorem filler_normal (config : Config) (text : String) : FillerNormal config text := by
  constructor
  case default_solid =>
    intro token htoken hkind
    rcases List.append_of_mem htoken with ⟨before, after, hsplit⟩
    exact default_token_solid hsplit hkind
  case default_apart =>
    intro before token next after hsplit hkind
    exact default_token_apart hsplit hkind
  case white_blank =>
    intro token htoken hkind
    rcases List.append_of_mem htoken with ⟨before, after, hsplit⟩
    exact white_token_blank hsplit hkind
  case white_stops =>
    intro before token after hsplit hkind
    exact white_token_followed hsplit hkind
  case white_apart =>
    intro before token next after hsplit hkind
    exact white_token_apart hsplit hkind
  case default_flagged =>
    intro statement hstatement token htoken hkind
    exact default_token_flagged hstatement htoken hkind
  case fields_not_filler =>
    intro statement hstatement token htoken
    exact field_not_filler hstatement htoken

end FieldGrammar
