import Mathlib.Data.List.Chain
import FieldGrammar.Proofs.Builtin.Language
import FieldGrammar.Proofs.Matching.Spelling
import FieldGrammar.Proofs.Scan.Restart

/-!
# Sentences of the built-in grammar

A text without errors need not end with a complete statement.  It is cut into a
sentence: lexemes in the order of the repeated format, with single runs of white
space between them.  The text of a sentence is cut into the sentence again, so a
text without errors stays one when a lexeme of it is exchanged for another of the
same kind, or when the next lexeme is added.
-/

namespace FieldGrammar
namespace Builtin

open Matching (Spells cyclicKind)

/-- The kinds of neighbours, which are not both white space. -/
def Apart (kind next : String) : Prop :=
  kind = Token.whitespaceKind -> next ≠ Token.whitespaceKind

/-- Pieces that may stand in a text without errors, after a number of fields. -/
structure Sentence (n : Nat) (pieces : List Scan.Piece) : Prop where
  lexemes : forall piece, piece ∈ pieces -> Lexeme piece.kind piece.chars
  spells : Spells config n ((solidPieces pieces).map Scan.Piece.kind)
  blanks_apart : (pieces.map Scan.Piece.kind).IsChain Apart

/-!
# The kinds of the repeated format
-/

theorem cyclicKind_cases (n : Nat) :
    (cyclicKind config n = identifierKind ∧ cyclicKind config (n + 1) = comparisonKind) ∨
      (cyclicKind config n = comparisonKind ∧ cyclicKind config (n + 1) = valueKind) ∨
      (cyclicKind config n = valueKind ∧ cyclicKind config (n + 1) = identifierKind) := by
  have hkinds : config.expectedAt? 0 = some identifierKind ∧
      config.expectedAt? 1 = some comparisonKind ∧ config.expectedAt? 2 = some valueKind :=
    ⟨rfl, rfl, rfl⟩
  have hname : forall rounds, cyclicKind config (rounds * 3 + 0) = identifierKind :=
    Matching.cyclicKind_of_expectedAt? hkinds.1
  have hcomparison : forall rounds, cyclicKind config (rounds * 3 + 1) = comparisonKind :=
    Matching.cyclicKind_of_expectedAt? hkinds.2.1
  have hvalue : forall rounds, cyclicKind config (rounds * 3 + 2) = valueKind :=
    Matching.cyclicKind_of_expectedAt? hkinds.2.2
  have hsplit : n = n / 3 * 3 + 0 ∨ n = n / 3 * 3 + 1 ∨ n = n / 3 * 3 + 2 := by omega
  rcases hsplit with hn | hn | hn
  · rw [hn]
    exact Or.inl ⟨hname _, hcomparison _⟩
  · rw [hn]
    exact Or.inr (Or.inl ⟨hcomparison _, hvalue _⟩)
  · have hnext : n + 1 = (n / 3 + 1) * 3 + 0 := by omega
    rw [hnext, hname]
    rw [hn]
    exact Or.inr (Or.inr ⟨hvalue _, rfl⟩)

theorem cyclicKind_ne_whitespace (n : Nat) : cyclicKind config n ≠ Token.whitespaceKind := by
  intro heq
  have hmem : cyclicKind config n ∈ config.format := List.get_mem _ _
  rw [heq] at hmem
  exact absurd hmem (by decide)

/-!
# The text of a sentence
-/

theorem solidPieces_map_kind (pieces : List Scan.Piece) :
    (solidPieces pieces).map Scan.Piece.kind =
      (pieces.map Scan.Piece.kind).filter fun kind => kind != Token.whitespaceKind := by
  rw [List.filter_map]
  rfl

theorem sentence_after_blank {n : Nat} {piece : Scan.Piece} {rest : List Scan.Piece}
    (h : Sentence n (piece :: rest)) (hblank : piece.kind = Token.whitespaceKind) :
    Sentence n rest := by
  rcases h with ⟨hlexemes, hspells, happart⟩
  constructor
  · exact (List.forall_mem_cons.mp hlexemes).2
  · rw [solidPieces_map_kind, List.map_cons, List.filter_cons_of_neg (by simp [hblank])] at hspells
    rw [solidPieces_map_kind]
    exact hspells
  · exact (List.isChain_cons.mp happart).2

theorem sentence_after_field {n : Nat} {piece : Scan.Piece} {rest : List Scan.Piece}
    (h : Sentence n (piece :: rest)) (hfield : piece.kind ≠ Token.whitespaceKind) :
    piece.kind = cyclicKind config n ∧ Sentence (n + 1) rest := by
  rcases h with ⟨hlexemes, hspells, happart⟩
  rw [solidPieces_map_kind, List.map_cons, List.filter_cons_of_pos (by simp [hfield])] at hspells
  refine ⟨hspells.1, ?_⟩
  constructor
  · exact (List.forall_mem_cons.mp hlexemes).2
  · rw [solidPieces_map_kind]
    exact hspells.2
  · exact (List.isChain_cons.mp happart).2

theorem startsIn_sentence {n : Nat} {pieces : List Scan.Piece} (h : Sentence n pieces) :
    StartsIn [Token.whitespaceKind, cyclicKind config n] (pieces.flatMap Scan.Piece.chars) := by
  cases pieces with
  | nil => exact startsIn_nil _
  | cons piece rest =>
      rw [List.flatMap_cons]
      apply startsIn_lexeme (h.lexemes piece List.mem_cons_self)
      by_cases hblank : piece.kind = Token.whitespaceKind
      · simp [hblank]
      · simp [(sentence_after_field h hblank).1]

theorem stopsAt_after_blank {n : Nat} {piece : Scan.Piece} {rest : List Scan.Piece}
    (h : Sentence n (piece :: rest)) (hblank : piece.kind = Token.whitespaceKind) :
    StopsAt Character.isWhiteSpace (rest.flatMap Scan.Piece.chars) := by
  cases rest with
  | nil =>
      intro c others heq
      cases heq
  | cons next later =>
      have hnext : next.kind ≠ Token.whitespaceKind :=
        (List.isChain_cons_cons.mp h.blanks_apart).1 hblank
      exact stopsAt_blank (h.lexemes next (by simp)) hnext _

/-- What may follow a field in a sentence cannot be read as part of the field. -/
theorem pieces_field {n : Nat} {text rest : List Char} (htext : Lexeme (cyclicKind config n) text)
    (hrest : StartsIn [Token.whitespaceKind, cyclicKind config (n + 1)] rest) :
    Scan.pieces rules Token.unknownKind (text ++ rest) =
      { chars := text, kind := cyclicKind config n } ::
        Scan.pieces rules Token.unknownKind rest := by
  have hshape := lexeme_shape htext
  rcases cyclicKind_cases n with ⟨hkind, hnext⟩ | ⟨hkind, hnext⟩ | ⟨hkind, hnext⟩
  · rw [hnext] at hrest
    rw [hkind]
    exact pieces_name (hshape.1 hkind) (stopsAt_namePart hrest)
  · rw [hnext] at hrest
    rw [hkind]
    exact pieces_comparison (hshape.2.1 hkind) (stopsAt_equals hrest)
  · rw [hnext] at hrest
    rw [hkind]
    exact pieces_value (hshape.2.2.1 hkind) (stopsAt_digit hrest)

theorem pieces_sentence {n : Nat} {pieces : List Scan.Piece} (h : Sentence n pieces) :
    Scan.pieces rules Token.unknownKind (pieces.flatMap Scan.Piece.chars) = pieces := by
  -- the rest is a sentence too, and how it starts tells where the first piece ends
  induction pieces generalizing n with
  | nil => exact Scan.pieces_nil rules Token.unknownKind
  | cons piece rest ih =>
      have hlexeme := h.lexemes piece List.mem_cons_self
      rw [List.flatMap_cons]
      by_cases hblank : piece.kind = Token.whitespaceKind
      · have hgap : Scan.gap Token.whitespaceKind piece.chars = [piece] := by
          rw [Scan.gap, if_neg (by simpa using lexeme_ne_nil hlexeme), ← hblank]
        rw [pieces_blank ((lexeme_shape hlexeme).2.2.2 hblank) (stopsAt_after_blank h hblank),
          ih (sentence_after_blank h hblank), hgap]
        rfl
      · rcases sentence_after_field h hblank with ⟨hkind, hrest⟩
        rw [hkind] at hlexeme
        rw [pieces_field hlexeme (startsIn_sentence hrest), ih hrest, ← hkind]

/-!
# Sentences and texts without errors
-/

def written (pieces : List Scan.Piece) : String :=
  String.ofList (pieces.flatMap Scan.Piece.chars)

theorem blanks_apart_pieces {cs : List Char}
    (hlexemes : forall piece, piece ∈ Scan.pieces rules Token.unknownKind cs ->
      Lexeme piece.kind piece.chars) :
    ((Scan.pieces rules Token.unknownKind cs).map Scan.Piece.kind).IsChain Apart := by
  rw [List.isChain_map, List.isChain_iff_forall_rel_of_append_cons_cons]
  intro piece next before after hsplit hblank hnext
  have hstops := Scan.pieces_after_whitespace config.wellFormed.names_ne_whitespace
    config.wellFormed.default_ne_whitespace hsplit hblank
  have hlexeme := hlexemes next (by simp [hsplit])
  cases hchars : next.chars with
  | nil => exact lexeme_ne_nil hlexeme hchars
  | cons c rest =>
      have hwhite := (lexeme_shape hlexeme).2.2.2 hnext c (by simp [hchars])
      have hsolid := hstops c (rest ++ after.flatMap Scan.Piece.chars) (by simp [hchars])
      rw [hwhite] at hsolid
      cases hsolid

theorem sentence_of_spells {cs : List Char}
    (h : Spells config 0
      ((solidPieces (Scan.pieces rules Token.unknownKind cs)).map Scan.Piece.kind)) :
    Sentence 0 (Scan.pieces rules Token.unknownKind cs) := by
  have hlexemes : forall piece, piece ∈ Scan.pieces rules Token.unknownKind cs ->
      Lexeme piece.kind piece.chars := by
    intro piece hpiece
    apply lexeme_of_piece hpiece
    intro hunknown
    have hsolid : piece ∈ solidPieces (Scan.pieces rules Token.unknownKind cs) :=
      List.mem_filter.mpr ⟨hpiece, by rw [hunknown]; decide⟩
    have hmem := Matching.mem_format_of_spells h _ (List.mem_map_of_mem hsolid)
    rw [hunknown] at hmem
    exact absurd hmem (by decide)
  exact ⟨hlexemes, h, blanks_apart_pieces hlexemes⟩

theorem exists_sentence {text : String}
    (h : forall statement, statement ∈ config.parse text -> statement.error = none) :
    exists pieces, Sentence 0 pieces ∧ text = written pieces := by
  refine ⟨Scan.pieces rules Token.unknownKind text.toList, ?_, ?_⟩
  · apply sentence_of_spells
    rw [Config.parse, Matching.no_errors_iff_spells tokens_valid, Config.tokens,
      Scan.tokens_eq_layOut, solidKinds_layOut] at h
    exact h
  · rw [written, Scan.pieces_chars, String.ofList_toList]

theorem tokens_sentence {pieces : List Scan.Piece} (h : Sentence 0 pieces) :
    config.tokens (written pieces) = Scan.layOut 0 pieces := by
  rw [Config.tokens, Scan.tokens_eq_layOut, written, String.toList_ofList]
  show Scan.layOut 0 (Scan.pieces rules Token.unknownKind _) = _
  rw [pieces_sentence h]

theorem no_errors_of_sentence {pieces : List Scan.Piece} (h : Sentence 0 pieces) :
    forall statement, statement ∈ config.parse (written pieces) -> statement.error = none := by
  rw [Config.parse, Matching.no_errors_iff_spells tokens_valid, tokens_sentence h,
    solidKinds_layOut]
  exact h.spells

theorem parse_tokens_sentence {pieces : List Scan.Piece} (h : Sentence 0 pieces) :
    (config.parse (written pieces)).flatMap Statement.tokens = Scan.layOut 0 pieces :=
  (Matching.tokens_of_no_errors tokens_valid (no_errors_of_sentence h)).trans (tokens_sentence h)

theorem fieldKinds_sentence {pieces : List Scan.Piece} (h : Sentence 0 pieces) :
    Matching.fieldKinds (config.parse (written pieces)) =
      (solidPieces pieces).map Scan.Piece.kind := by
  rw [Config.parse, Matching.fieldKinds_of_no_errors tokens_valid (no_errors_of_sentence h),
    tokens_sentence h, solidKinds_layOut]

/-!
# Changing a sentence
-/

theorem sentence_of_kinds {n : Nat} {pieces changed : List Scan.Piece} (h : Sentence n pieces)
    (hkinds : changed.map Scan.Piece.kind = pieces.map Scan.Piece.kind)
    (hlexemes : forall piece, piece ∈ changed -> Lexeme piece.kind piece.chars) :
    Sentence n changed := by
  refine ⟨hlexemes, ?_, ?_⟩
  · rw [solidPieces_map_kind, hkinds, ← solidPieces_map_kind]
    exact h.spells
  · rw [hkinds]
    exact h.blanks_apart

theorem sentence_replace {n : Nat} {before after : List Scan.Piece} {piece : Scan.Piece}
    {value : List Char} (h : Sentence n (before ++ piece :: after))
    (hvalue : Lexeme piece.kind value) :
    Sentence n (before ++ { chars := value, kind := piece.kind } :: after) := by
  apply sentence_of_kinds h
  · simp
  · have hlexemes := h.lexemes
    rw [List.forall_mem_append, List.forall_mem_cons] at hlexemes ⊢
    exact ⟨hlexemes.1, hvalue, hlexemes.2.2⟩

theorem solidPieces_concat {pieces : List Scan.Piece} {piece : Scan.Piece}
    (h : piece.kind ≠ Token.whitespaceKind) :
    solidPieces (pieces ++ [piece]) = solidPieces pieces ++ [piece] := by
  simp [solidPieces, h]

theorem sentence_append {n : Nat} {pieces : List Scan.Piece} {value : List Char}
    (h : Sentence n pieces)
    (hvalue : Lexeme (cyclicKind config (n + (solidPieces pieces).length)) value) :
    Sentence n (pieces ++
      [{ chars := value, kind := cyclicKind config (n + (solidPieces pieces).length) }]) := by
  have hsolid := cyclicKind_ne_whitespace (n + (solidPieces pieces).length)
  constructor
  · rw [List.forall_mem_append, List.forall_mem_singleton]
    exact ⟨h.lexemes, hvalue⟩
  · rw [solidPieces_concat hsolid, List.map_append, Matching.spells_append, List.length_map]
    exact ⟨h.spells, rfl, trivial⟩
  · rw [List.map_append, List.isChain_append]
    refine ⟨h.blanks_apart, List.isChain_singleton _, ?_⟩
    intro kind _ next hnext _
    cases hnext
    exact hsolid

end Builtin
end FieldGrammar
