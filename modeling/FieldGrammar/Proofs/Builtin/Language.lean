import Mathlib.Data.List.Forall2
import FieldGrammar.Proofs.Builtin.Recognition
import FieldGrammar.Proofs.Matching.Clean
import FieldGrammar.Proofs.Scan.Partition

/-!
# The language of the built-in grammar

A text is read without an error, and to the end, exactly when it is made of
blocks: a name, a comparison and a value, with white space anywhere before them
and nothing after the last value.
-/

namespace FieldGrammar
namespace Builtin

structure Block where
  beforeName : List Char
  name : List Char
  beforeComparison : List Char
  comparison : List Char
  beforeValue : List Char
  value : List Char
  beforeName_blank : IsBlank beforeName
  name_isName : IsName name
  beforeComparison_blank : IsBlank beforeComparison
  comparison_isComparison : IsComparison comparison
  beforeValue_blank : IsBlank beforeValue
  value_isValue : IsValue value

namespace Block

def chars (block : Block) : List Char :=
  block.beforeName ++ (block.name ++ (block.beforeComparison ++ (block.comparison ++
    (block.beforeValue ++ block.value))))

def fieldTexts (block : Block) : List String :=
  [String.ofList block.name, String.ofList block.comparison, String.ofList block.value]

/-- The pieces before the value. -/
def leadingPieces (block : Block) : List Scan.Piece :=
  Scan.gap Token.whitespaceKind block.beforeName ++
    { chars := block.name, kind := identifierKind } ::
      (Scan.gap Token.whitespaceKind block.beforeComparison ++
        { chars := block.comparison, kind := comparisonKind } ::
          Scan.gap Token.whitespaceKind block.beforeValue)

def valuePiece (block : Block) : Scan.Piece :=
  { chars := block.value, kind := valueKind }

def pieces (block : Block) : List Scan.Piece :=
  block.leadingPieces ++ [block.valuePiece]

end Block

/-!
# Scanning blocks

No lexeme of a block can go on with the first character of what follows it: this
is told by the kind of that character.
-/

def StartsIn (kinds : List String) (text : List Char) : Prop :=
  forall c rest, text = c :: rest -> exists kind, kind ∈ kinds ∧ kindOf? c = some kind

theorem startsIn_nil (kinds : List String) : StartsIn kinds [] := by
  intro c rest heq
  cases heq

theorem startsIn_lexeme {kinds : List String} {kind : String} {text : List Char}
    (htext : Lexeme kind text) (hkind : kind ∈ kinds) (rest : List Char) :
    StartsIn kinds (text ++ rest) := by
  intro c others heq
  cases text with
  | nil => exact absurd rfl (lexeme_ne_nil htext)
  | cons d more =>
      cases (List.cons.inj heq).1
      exact ⟨kind, hkind, lexeme_kindOf? htext⟩

theorem startsIn_blank {kinds : List String} {text rest : List Char} (htext : IsBlank text)
    (hkind : Token.whitespaceKind ∈ kinds) (hrest : StartsIn kinds rest) :
    StartsIn kinds (text ++ rest) := by
  cases text with
  | nil => exact hrest
  | cons c others =>
      exact startsIn_lexeme (Lexeme.blank (by simp) htext) hkind rest

theorem stopsAt_of_startsIn {p : Char -> Bool} {kinds : List String} {text : List Char}
    (hp : forall c, p c = true -> forall kind, kind ∈ kinds -> kindOf? c ≠ some kind)
    (htext : StartsIn kinds text) : StopsAt p text := by
  intro c rest heq
  rcases htext c rest heq with ⟨kind, hmem, hkind⟩
  cases hc : p c with
  | false => rfl
  | true => exact absurd hkind (hp c hc kind hmem)

theorem stopsAt_blank {kind : String} {text : List Char} (htext : Lexeme kind text)
    (hkind : kind ≠ Token.whitespaceKind) (rest : List Char) :
    StopsAt Character.isWhiteSpace (text ++ rest) := by
  apply stopsAt_of_startsIn _ (startsIn_lexeme htext (List.mem_singleton_self kind) rest)
  intro c hc other hother
  rw [kindOf?_of_blank hc, List.mem_singleton.mp hother]
  intro heq
  exact hkind (Option.some.inj heq).symm

theorem stopsAt_namePart {text : List Char}
    (htext : StartsIn [Token.whitespaceKind, comparisonKind] text) : StopsAt isNamePart text := by
  apply stopsAt_of_startsIn _ htext
  intro c hc kind hkind heq
  simp only [isNamePart, Char.isAlphanum, Bool.or_eq_true, beq_iff_eq] at hc
  rcases hc with (halpha | hdigit) | rfl
  · rw [kindOf?_of_alpha halpha] at heq
    cases heq
    exact absurd hkind (by decide)
  · rw [kindOf?_of_digit hdigit] at heq
    cases heq
    exact absurd hkind (by decide)
  · cases heq

theorem stopsAt_equals {text : List Char}
    (htext : StartsIn [Token.whitespaceKind, valueKind] text) : StopsAt (· == '=') text := by
  apply stopsAt_of_startsIn _ htext
  intro c hc kind hkind heq
  rw [beq_iff_eq.mp hc, kindOf?_of_operatorStart rfl] at heq
  cases heq
  exact absurd hkind (by decide)

theorem stopsAt_digit {text : List Char}
    (htext : StartsIn [Token.whitespaceKind, identifierKind] text) :
    StopsAt Char.isDigit text := by
  apply stopsAt_of_startsIn _ htext
  intro c hc kind hkind heq
  rw [kindOf?_of_digit hc] at heq
  cases heq
  exact absurd hkind (by decide)

/-!
A block is followed by another block or by the end of the text, so what follows
its value starts with white space or with a name.
-/

theorem pieces_block (block : Block) {rest : List Char}
    (hrest : StartsIn [Token.whitespaceKind, identifierKind] rest) :
    Scan.pieces rules Token.unknownKind (block.chars ++ rest) =
      block.pieces ++ Scan.pieces rules Token.unknownKind rest := by
  have hname := Lexeme.name block.name_isName
  have hcomparison := Lexeme.comparison block.comparison_isComparison
  have hvalue := Lexeme.value block.value_isValue
  simp only [Block.chars, List.append_assoc]
  rw [pieces_blank block.beforeName_blank, pieces_name block.name_isName,
    pieces_blank block.beforeComparison_blank, pieces_comparison block.comparison_isComparison,
    pieces_blank block.beforeValue_blank, pieces_value block.value_isValue]
  · simp [Block.pieces, Block.leadingPieces, Block.valuePiece]
  · exact stopsAt_digit hrest
  · exact stopsAt_blank hvalue (by decide) _
  · apply stopsAt_equals
    exact startsIn_blank block.beforeValue_blank (by simp) (startsIn_lexeme hvalue (by simp) _)
  · exact stopsAt_blank hcomparison (by decide) _
  · apply stopsAt_namePart
    exact startsIn_blank block.beforeComparison_blank (by simp)
      (startsIn_lexeme hcomparison (by simp) _)
  · exact stopsAt_blank hname (by decide) _

theorem startsIn_blocks (blocks : List Block) :
    StartsIn [Token.whitespaceKind, identifierKind] (blocks.flatMap Block.chars) := by
  cases blocks with
  | nil => exact startsIn_nil _
  | cons block others =>
      simp only [List.flatMap_cons, Block.chars, List.append_assoc]
      exact startsIn_blank block.beforeName_blank (by simp)
        (startsIn_lexeme (Lexeme.name block.name_isName) (by simp) _)

theorem pieces_blocks (blocks : List Block) :
    Scan.pieces rules Token.unknownKind (blocks.flatMap Block.chars) =
      blocks.flatMap Block.pieces := by
  induction blocks with
  | nil => exact Scan.pieces_nil rules Token.unknownKind
  | cons block others ih =>
      rw [List.flatMap_cons, pieces_block block (startsIn_blocks others), ih, List.flatMap_cons]

/-!
# Grouping blocks

The pieces of a block that are not white space are its fields, and their kinds
spell the format.
-/

def solidPieces (pieces : List Scan.Piece) : List Scan.Piece :=
  pieces.filter fun piece => piece.kind != Token.whitespaceKind

theorem solidPieces_gap (text : List Char) :
    solidPieces (Scan.gap Token.whitespaceKind text) = [] := by
  cases text with
  | nil => rfl
  | cons c rest => rfl

theorem solidPieces_block (block : Block) :
    solidPieces block.pieces =
      [{ chars := block.name, kind := identifierKind },
       { chars := block.comparison, kind := comparisonKind },
       { chars := block.value, kind := valueKind }] := by
  have hgap := solidPieces_gap
  simp only [solidPieces] at hgap
  simp only [solidPieces, Block.pieces, Block.leadingPieces, Block.valuePiece,
    List.filter_append, List.filter_cons, hgap]
  rfl

theorem solidKinds_layOut (start : Nat) (pieces : List Scan.Piece) :
    Matching.solidKinds (Scan.layOut start pieces) =
      (solidPieces pieces).map Scan.Piece.kind := by
  induction pieces generalizing start with
  | nil => rfl
  | cons piece rest ih =>
      have hrest := ih (start + Text.byteLength piece.chars)
      have hblank : (Token.placed piece.chars piece.kind start).isWhitespace =
          (piece.kind == Token.whitespaceKind) := rfl
      simp only [Matching.solidKinds, solidPieces, Scan.layOut, List.filter_cons, hblank] at hrest ⊢
      cases hkind : piece.kind == Token.whitespaceKind with
      | true => simpa [bne, hkind] using hrest
      | false => simpa [bne, hkind, Token.placed] using hrest

theorem field_texts_layOut (start : Nat) (pieces : List Scan.Piece) :
    ((Scan.layOut start pieces).filter Token.isField).map Token.text =
      (solidPieces pieces).map fun piece => String.ofList piece.chars := by
  induction pieces generalizing start with
  | nil => rfl
  | cons piece rest ih =>
      have hrest := ih (start + Text.byteLength piece.chars)
      have hfield : (Token.placed piece.chars piece.kind start).isField =
          (piece.kind != Token.whitespaceKind) := by
        rw [Matching.isField_of_valid rfl]
        rfl
      simp only [solidPieces, Scan.layOut, List.filter_cons, hfield] at hrest ⊢
      cases piece.kind != Token.whitespaceKind with
      | true => simpa [Token.placed] using hrest
      | false => simpa using hrest

structure ReadAs (statement : Statement) (block : Block) : Prop where
  no_error : statement.error = none
  complete : statement.incomplete = false
  field_texts : statement.fields.map Token.text = block.fieldTexts

theorem statements_blocks (blocks : List Block) (start : Nat) :
    List.Forall₂ ReadAs
      (Matching.statements config (Scan.layOut start (blocks.flatMap Block.pieces))) blocks := by
  induction blocks generalizing start with
  | nil => exact List.Forall₂.nil
  | cons block others ih =>
      have hkinds : Matching.solidKinds (Scan.layOut start block.pieces) = config.format := by
        rw [solidKinds_layOut, solidPieces_block]
        rfl
      have hlast : Scan.layOut start block.pieces =
          Scan.layOut start block.leadingPieces ++
            [Token.placed block.value valueKind
              (start + Text.byteLength (block.leadingPieces.flatMap Scan.Piece.chars))] :=
        Scan.layOut_append start block.leadingPieces [block.valuePiece]
      have hsolid : forall place,
          (Token.placed block.value valueKind place).isWhitespace = false := by
        intro place
        show (valueKind == Token.whitespaceKind) = false
        decide
      rw [hlast] at hkinds
      rw [List.flatMap_cons, Scan.layOut_append, hlast,
        Matching.statements_of_spells (hsolid _) hkinds]
      apply List.Forall₂.cons _ (ih _)
      constructor
      · rfl
      · rfl
      · show ((_ : List Token).filter Token.isField).map Token.text = _
        rw [← hlast, field_texts_layOut, solidPieces_block]
        rfl

/-!
# Blocks of a text that is read

Conversely, the tokens of a complete statement without an error are a name, a
comparison and a value with white space between them, that is, a block.
-/

theorem lexeme_of_token {text : String} {token : Token} {kind : String}
    (h : token ∈ config.tokens text) (hkind : token.kind = kind)
    (hne : kind ≠ Token.unknownKind) : Lexeme kind token.text.toList := by
  rcases Scan.tokens_place h with ⟨before, piece, after, hpiece, _, rfl⟩
  cases hkind
  have hlexeme := lexeme_of_piece hpiece hne
  simpa [Token.placed] using hlexeme

theorem lexeme_shape {kind : String} {cs : List Char} (h : Lexeme kind cs) :
    (kind = identifierKind -> IsName cs) ∧ (kind = comparisonKind -> IsComparison cs) ∧
      (kind = valueKind -> IsValue cs) ∧ (kind = Token.whitespaceKind -> IsBlank cs) := by
  cases h with
  | name hname =>
      simp [identifierKind, comparisonKind, valueKind, Token.whitespaceKind, hname]
  | comparison hcomparison =>
      simp [identifierKind, comparisonKind, valueKind, Token.whitespaceKind, hcomparison]
  | value hvalue =>
      simp [identifierKind, comparisonKind, valueKind, Token.whitespaceKind, hvalue]
  | blank _ hblank =>
      simp [identifierKind, comparisonKind, valueKind, Token.whitespaceKind, hblank]

/-- The text of tokens one after the other. -/
def textOf (tokens : List Token) : List Char :=
  tokens.flatMap fun token => token.text.toList

theorem textOf_append (xs ys : List Token) : textOf (xs ++ ys) = textOf xs ++ textOf ys :=
  List.flatMap_append

theorem isBlank_textOf {text : String} {tokens : List Token}
    (h : forall token, token ∈ tokens -> token ∈ config.tokens text ∧ token.isWhitespace = true) :
    IsBlank (textOf tokens) := by
  intro c hc
  rcases List.mem_flatMap.mp hc with ⟨token, htoken, hchar⟩
  have hkind : token.kind = Token.whitespaceKind := beq_iff_eq.mp (h token htoken).2
  have hlexeme := lexeme_of_token (h token htoken).1 hkind (by decide)
  exact (lexeme_shape hlexeme).2.2.2 rfl c hchar

/-- Where the last token is the third and last field, the fields are told apart by blanks. -/
theorem split_at_fields {tokens initial : List Token} {a b c last : Token}
    (hfields : tokens.filter Token.isField = [a, b, c]) (hlast : tokens = initial ++ [last])
    (hfield : last.isField = true) :
    exists blanks₁ blanks₂ blanks₃,
      tokens = blanks₁ ++ a :: (blanks₂ ++ b :: (blanks₃ ++ [c])) ∧
        forall token, token ∈ blanks₁ ++ (blanks₂ ++ blanks₃) -> token.isField = false := by
  rcases List.filter_eq_cons_iff.mp hfields with ⟨blanks₁, rest₁, rfl, hblank₁, _, hrest₁⟩
  rcases List.filter_eq_cons_iff.mp hrest₁ with ⟨blanks₂, rest₂, rfl, hblank₂, _, hrest₂⟩
  rcases List.filter_eq_cons_iff.mp hrest₂ with ⟨blanks₃, rest₃, rfl, hblank₃, _, hrest₃⟩
  have hnil : rest₃ = [] := by
    rcases List.eq_nil_or_concat rest₃ with hnil | ⟨others, final, hconcat⟩
    · exact hnil
    · rw [List.concat_eq_append] at hconcat
      have hassoc : blanks₁ ++ a :: (blanks₂ ++ b :: (blanks₃ ++ c :: rest₃)) =
          blanks₁ ++ a :: (blanks₂ ++ b :: (blanks₃ ++ c :: others)) ++ [final] := by
        simp [hconcat]
      have hfinal : final = last := by
        simpa using (List.append_inj' (hassoc.symm.trans hlast) rfl).2
      have hother := List.filter_eq_nil_iff.mp hrest₃ final (by simp [hconcat])
      rw [hfinal, hfield] at hother
      exact absurd rfl hother
  refine ⟨blanks₁, blanks₂, blanks₃, by rw [hnil], ?_⟩
  intro token htoken
  rw [List.mem_append, List.mem_append] at htoken
  rcases htoken with htoken | htoken | htoken
  · simpa using hblank₁ token htoken
  · simpa using hblank₂ token htoken
  · simpa using hblank₃ token htoken

theorem tokens_valid {text : String} :
    forall token, token ∈ config.tokens text -> token.invalid = false :=
  (Scan.partition_tokens text rules Token.unknownKind).unflagged

theorem block_of_chunk {text : String} {chunk : List Token}
    (hchunk : chunk ∈ Matching.chunks config (config.tokens text))
    (herror : (Matching.fill config chunk).statement.error = none)
    (hcomplete : (Matching.fill config chunk).statement.incomplete = false) :
    exists block : Block, block.chars = textOf chunk := by
  have hvalid := Matching.chunks_valid tokens_valid hchunk
  have hwell := Matching.wellFormed_of_invariant (Matching.chunks_invariant tokens_valid hchunk)
  have htokens := Matching.fill_tokens_of_valid hvalid (hwell.error.none_iff.mp herror)
  have hkinds := Matching.clean_fields hwell hcomplete
  rcases hwell.last_field hcomplete with ⟨initial, last, hlast, hfield, _⟩
  rw [Statement.fields, htokens] at hkinds
  rw [htokens] at hlast
  have hmem : forall token, token ∈ chunk -> token ∈ config.tokens text := by
    intro token htoken
    rw [← Matching.chunks_flatten config (config.tokens text)]
    exact List.mem_flatten.mpr ⟨chunk, hchunk, htoken⟩
  rcases List.map_eq_cons_iff.mp hkinds with ⟨name, fields₁, hfields, hname, hkinds₁⟩
  rcases List.map_eq_cons_iff.mp hkinds₁ with ⟨comparison, fields₂, rfl, hcomparison, hkinds₂⟩
  rcases List.map_eq_cons_iff.mp hkinds₂ with ⟨value, fields₃, rfl, hvalue, hkinds₃⟩
  rw [List.map_eq_nil_iff.mp hkinds₃] at hfields
  rcases split_at_fields hfields hlast hfield with ⟨blanks₁, blanks₂, blanks₃, rfl, hblanks⟩
  have hblank : forall token, token ∈ blanks₁ ++ (blanks₂ ++ blanks₃) ->
      token ∈ config.tokens text ∧ token.isWhitespace = true := by
    intro token htoken
    have hother := hblanks token htoken
    have hinside :
        token ∈ blanks₁ ++ name :: (blanks₂ ++ comparison :: (blanks₃ ++ [value])) := by
      simp only [List.mem_append, List.mem_cons] at htoken ⊢
      tauto
    rw [Matching.isField_of_valid (hvalid token hinside)] at hother
    exact ⟨hmem token hinside, by simpa using hother⟩
  have hnameLexeme := lexeme_of_token (hmem name (by simp)) hname (by decide)
  have hcomparisonLexeme := lexeme_of_token (hmem comparison (by simp)) hcomparison (by decide)
  have hvalueLexeme := lexeme_of_token (hmem value (by simp)) hvalue (by decide)
  refine
    ⟨{ beforeName := textOf blanks₁
       name := name.text.toList
       beforeComparison := textOf blanks₂
       comparison := comparison.text.toList
       beforeValue := textOf blanks₃
       value := value.text.toList
       beforeName_blank := isBlank_textOf fun token htoken => hblank token (by simp [htoken])
       name_isName := (lexeme_shape hnameLexeme).1 rfl
       beforeComparison_blank := isBlank_textOf fun token htoken => hblank token (by simp [htoken])
       comparison_isComparison := (lexeme_shape hcomparisonLexeme).2.1 rfl
       beforeValue_blank := isBlank_textOf fun token htoken => hblank token (by simp [htoken])
       value_isValue := (lexeme_shape hvalueLexeme).2.2.1 rfl }, ?_⟩
  simp [Block.chars, textOf]

theorem blocks_of_chunks {chunks : List (List Token)}
    (h : forall chunk, chunk ∈ chunks -> exists block : Block, block.chars = textOf chunk) :
    exists blocks : List Block, textOf chunks.flatten = blocks.flatMap Block.chars := by
  induction chunks with
  | nil => exact ⟨[], rfl⟩
  | cons chunk rest ih =>
      rcases h chunk List.mem_cons_self with ⟨block, hblock⟩
      rcases ih (fun other hother => h other (List.mem_cons_of_mem chunk hother)) with
        ⟨blocks, hblocks⟩
      refine ⟨block :: blocks, ?_⟩
      rw [List.flatten_cons, textOf_append, hblocks, ← hblock, List.flatMap_cons]

theorem textOf_tokens (text : String) : textOf (config.tokens text) = text.toList := by
  have hjoin := congrArg String.toList (Scan.join_tokens text rules Token.unknownKind)
  rw [String.toList_join, List.flatMap_map] at hjoin
  exact hjoin

/-!
# The language
-/

theorem blocks_of_clean {text : String}
    (h : forall statement, statement ∈ config.parse text ->
      statement.hasError = false ∧ statement.incomplete = false) :
    exists blocks : List Block, text.toList = blocks.flatMap Block.chars := by
  have hchunks : forall chunk, chunk ∈ Matching.chunks config (config.tokens text) ->
      exists block : Block, block.chars = textOf chunk := by
    intro chunk hchunk
    rcases h _ (Matching.mem_statements.mpr ⟨chunk, hchunk, rfl⟩) with ⟨herror, hcomplete⟩
    apply block_of_chunk hchunk _ hcomplete
    simpa [Statement.hasError] using herror
  have hblocks := blocks_of_chunks hchunks
  rw [Matching.chunks_flatten, textOf_tokens] at hblocks
  exact hblocks

theorem readAs_blocks {text : String} {blocks : List Block}
    (h : text.toList = blocks.flatMap Block.chars) :
    List.Forall₂ ReadAs (config.parse text) blocks := by
  have hstatements := statements_blocks blocks 0
  rw [← pieces_blocks, ← h] at hstatements
  rw [Config.parse, Config.tokens, Scan.tokens_eq_layOut]
  exact hstatements

theorem clean_of_readAs {statements : List Statement} {blocks : List Block}
    (h : List.Forall₂ ReadAs statements blocks) :
    forall statement, statement ∈ statements ->
      statement.hasError = false ∧ statement.incomplete = false := by
  induction h with
  | nil =>
      intro statement hstatement
      cases hstatement
  | cons hread _ ih =>
      intro statement hstatement
      rcases List.mem_cons.mp hstatement with rfl | hlater
      · rw [Statement.hasError, hread.no_error]
        exact ⟨rfl, hread.complete⟩
      · exact ih statement hlater

theorem field_texts_of_readAs {statements : List Statement} {blocks : List Block}
    (h : List.Forall₂ ReadAs statements blocks) :
    statements.map (fun statement => statement.fields.map Token.text) =
      blocks.map Block.fieldTexts := by
  induction h with
  | nil => rfl
  | cons hread _ ih => rw [List.map_cons, List.map_cons, hread.field_texts, ih]

theorem parse_clean_iff_blocks (text : String) :
    ((forall statement, statement ∈ config.parse text ->
        statement.hasError = false ∧ statement.incomplete = false) <->
      exists blocks : List Block, text.toList = blocks.flatMap Block.chars) ∧
    forall blocks : List Block, text.toList = blocks.flatMap Block.chars ->
      (config.parse text).length = blocks.length ∧
        (config.parse text).map (fun statement => statement.fields.map Token.text) =
          blocks.map Block.fieldTexts := by
  constructor
  · constructor
    · exact blocks_of_clean
    · rintro ⟨blocks, hblocks⟩
      exact clean_of_readAs (readAs_blocks hblocks)
  · intro blocks hblocks
    have hread := readAs_blocks hblocks
    exact ⟨hread.length_eq, field_texts_of_readAs hread⟩

/-- A block without white space whose value holds an operator and a line end. -/
def quotedBlock : Block :=
  { beforeName := []
    name := ['a', '_', '1']
    beforeComparison := []
    comparison := ['<', '=']
    beforeValue := []
    value := ['"', '=', '\n', '"']
    beforeName_blank := by simp [IsBlank]
    name_isName := ⟨'a', ['_', '1'], rfl, rfl, by simp [isNamePart, Char.isAlphanum]⟩
    beforeComparison_blank := by simp [IsBlank]
    comparison_isComparison := by simp [IsComparison]
    beforeValue_blank := by simp [IsBlank]
    value_isValue := Or.inr ⟨['=', '\n'], rfl, by decide⟩ }

theorem quotedBlock_twice_is_read :
    (config.parse "a_1<=\"=\n\"a_1<=\"=\n\"").length = 2 ∧
      (config.parse "a_1<=\"=\n\"a_1<=\"=\n\"").map
          (fun statement => statement.fields.map Token.text) =
        [["a_1", "<=", "\"=\n\""], ["a_1", "<=", "\"=\n\""]] := by
  have hread := (parse_clean_iff_blocks "a_1<=\"=\n\"a_1<=\"=\n\"").2
    [quotedBlock, quotedBlock] (by decide)
  exact hread

end Builtin
end FieldGrammar
