import FieldGrammar.Proofs.Builtin.Sentence
import FieldGrammar.Proofs.Edit
import FieldGrammar.Proofs.Focus
import FieldGrammar.Proofs.Suggestion

/-!
# Accepting a suggestion of the built-in grammar

Every value that is offered is a lexeme of the kind that is asked for.  Put in the
place of the field under the caret, or after the last field of the text, it leaves
a text without errors free of errors, and it is the field under the caret then.
-/

namespace FieldGrammar
namespace Builtin

open Matching (cyclicKind fieldKinds)

/-!
# What is offered

The values for a value of a statement are made of the name of the statement, which
has no quotes in it.
-/

theorem isDigit_of_mem_repr {n : Nat} {c : Char} (h : c ∈ (Nat.repr n).toList) :
    c.isDigit = true := by
  rw [Nat.toList_repr] at h
  exact Nat.isDigit_of_mem_toDigits (by decide) (by decide) h

theorem isName_of_mem_numberedValues {stem value : String} {last : Nat}
    (hstem : IsName stem.toList) (h : value ∈ Source.numberedValues stem last) :
    IsName value.toList := by
  rcases List.mem_map.mp h with ⟨i, _, rfl⟩
  rcases hstem with ⟨first, rest, hsplit, hfirst, hrest⟩
  refine ⟨first, rest ++ (Nat.repr i).toList, ?_, hfirst, ?_⟩
  · rw [String.toList_append, hsplit, List.cons_append]
  · intro c hc
    rcases List.mem_append.mp hc with hc | hc
    · exact hrest c hc
    · simp [isNamePart, Char.isAlphanum, isDigit_of_mem_repr hc]

theorem isValue_of_mem_quotedValues {stem value : String} {last : Nat}
    (hstem : '"' ∉ stem.toList) (h : value ∈ Source.quotedValues stem last) :
    IsValue value.toList := by
  rcases List.mem_map.mp h with ⟨i, _, rfl⟩
  refine Or.inr ⟨stem.toList ++ (Nat.repr i).toList, ?_, ?_⟩
  · simp
  · rw [List.mem_append, not_or]
    refine ⟨hstem, ?_⟩
    intro hquote
    exact absurd (isDigit_of_mem_repr hquote) (by decide)

theorem fetch_offers_lexemes {request : Request} (hrule : request.rule ∈ rules)
    (hstem : '"' ∉ (Source.stemOf request.context).toList) (page pageSize : Nat) :
    exists values, request.fetch page pageSize = .ok values ∧
      forall value, value ∈ values -> Lexeme request.rule.name value.toList := by
  simp only [rules, List.mem_cons, List.not_mem_nil, or_false] at hrule
  rw [Request.fetch]
  rcases hrule with hrule | hrule | hrule
  · rw [hrule]
    refine ⟨_, rfl, ?_⟩
    intro value hvalue
    have hmem := (List.mem_filter.mp (mem_of_mem_paginate hvalue)).1
    have hstem : IsName "foo".toList :=
      ⟨'f', ['o', 'o'], rfl, rfl, by simp [isNamePart, Char.isAlphanum]⟩
    exact Lexeme.name (isName_of_mem_numberedValues hstem hmem)
  · rw [hrule]
    refine ⟨_, rfl, ?_⟩
    intro value hvalue
    have hmem := (List.mem_filter.mp (mem_of_mem_paginate hvalue)).1
    apply Lexeme.comparison
    simp only [List.mem_cons, List.not_mem_nil, or_false] at hmem
    rcases hmem with rfl | rfl | rfl | rfl | rfl <;> simp [IsComparison]
  · rw [hrule]
    refine ⟨_, rfl, ?_⟩
    intro value hvalue
    exact Lexeme.value (isValue_of_mem_quotedValues hstem (mem_of_mem_paginate hvalue))

theorem quote_not_mem_of_isName {cs : List Char} (h : IsName cs) : '"' ∉ cs := by
  rcases h with ⟨first, rest, rfl, hfirst, hrest⟩
  intro hquote
  rcases List.mem_cons.mp hquote with rfl | hquote
  · cases hfirst
  · exact absurd (hrest _ hquote) (by decide)

theorem firstField?_isName {text : String} {statement : Statement} {token : Token}
    (hstatement : statement ∈ config.parse text) (h : statement.firstField? = some token) :
    IsName token.text.toList := by
  have hwell := Matching.statements_wellFormed tokens_valid hstatement
  rcases List.head?_eq_some_iff.mp h with ⟨others, hfields⟩
  have hkind : token.kind = identifierKind := by
    have hkinds := hwell.field_kinds
    rw [Statement.fieldCount, hfields] at hkinds
    exact (List.cons.inj hkinds).1
  have hfield : token ∈ statement.fields := by
    rw [hfields]
    exact List.mem_cons_self
  have hmem : Matching.unflag token ∈ config.tokens text := by
    rw [← parse_tokens_unflag]
    apply List.mem_map_of_mem
    exact List.mem_flatMap.mpr ⟨statement, hstatement, (List.mem_filter.mp hfield).1⟩
  exact (lexeme_shape (lexeme_of_token hmem hkind (by decide))).1 rfl

theorem quote_not_mem_stemOf {text : String} {context : Option Statement}
    (h : forall statement, context = some statement -> statement ∈ config.parse text) :
    '"' ∉ (Source.stemOf context).toList := by
  unfold Source.stemOf
  split
  · simp
  · rename_i token htoken
    rcases Option.bind_eq_some_iff.mp htoken with ⟨statement, hcontext, hfirst⟩
    exact quote_not_mem_of_isName (firstField?_isName (h statement hcontext) hfirst)

/-!
# The caret after a field of a sentence
-/

theorem hasErrors_eq_false_iff {analysis : Analysis} :
    analysis.hasErrors = false <->
      forall statement, statement ∈ analysis.statements -> statement.error = none := by
  rw [Analysis.hasErrors, List.any_eq_false]
  simp [Statement.hasError]

theorem isFiller_of_rule {rule : Rule} (h : rule ∈ rules) : config.isFiller rule.name = false := by
  have hblank := config.wellFormed.names_ne_whitespace rule h
  have hdefault := config.wellFormed.names_ne_default rule h
  simp [Config.isFiller, hblank, hdefault]

/-- The text of the pieces, with the caret after one of them. -/
def caretAfter (earlier : List Scan.Piece) (piece : Scan.Piece) (later : List Scan.Piece) : Edit :=
  { text := written (earlier ++ piece :: later)
    caret := Text.byteLength (earlier.flatMap Scan.Piece.chars) + Text.byteLength piece.chars }

theorem activeToken?_caretAfter {earlier later : List Scan.Piece} {piece : Scan.Piece}
    (h : Sentence 0 (earlier ++ piece :: later)) (hfield : config.isFiller piece.kind = false) :
    (config.analyze (caretAfter earlier piece later).text
      (caretAfter earlier piece later).caret).activeToken? =
        some (Token.placed piece.chars piece.kind
          (Text.byteLength (earlier.flatMap Scan.Piece.chars))) := by
  have hpos := Text.byteLength_pos (lexeme_ne_nil (h.lexemes piece (by simp)))
  have hmem : Token.placed piece.chars piece.kind
      (Text.byteLength (earlier.flatMap Scan.Piece.chars)) ∈
        (config.parse (written (earlier ++ piece :: later))).flatMap Statement.tokens := by
    rw [parse_tokens_sentence h, Scan.layOut_append, Nat.zero_add]
    simp [Scan.layOut]
  rcases Focus.exists_owns hmem with ⟨i, j, howns⟩
  have hleft : Focus.LeftOf (caretAfter earlier piece later).caret
      (Token.placed piece.chars piece.kind
        (Text.byteLength (earlier.flatMap Scan.Piece.chars))) :=
    ⟨Nat.lt_add_of_pos_right hpos, Nat.le_refl _⟩
  have hfocus := Focus.resolve_left_field (tiles_parse config _) howns hleft hfield
  exact Focus.activeToken?_of_owns hfocus howns

/-!
# Inserting a value

On a field, the lexeme of the field is exchanged.  At the end of the text, the
field that is expected next is the next one of the repeated format.
-/

/-- What comes of a value that is put where its request wants it. -/
structure Accepted (before : Analysis) (request : Request) (value : String) (after : Analysis) :
    Prop where
  no_errors : after.hasErrors = false
  active : exists token, after.activeToken? = some token ∧ token.text = value ∧
    token.kind = request.rule.name
  replaced : before.activeToken?.isSome = true ->
    fieldKinds after.statements = fieldKinds before.statements
  appended : before.activeToken? = none ->
    exists prediction, before.prediction = some prediction ∧
      fieldKinds after.statements = fieldKinds before.statements ++ [prediction.kind]

section Insert

variable {pieces : List Scan.Piece} {caret : Nat} {request : Request} {value : String}
  (hsentence : Sentence 0 pieces)
  (hrequest : Request.ofAnalysis? config (config.analyze (written pieces) caret) = some request)
  (hvalue : Lexeme request.rule.name value.toList)

include hsentence hrequest hvalue

theorem insert_on_token {token : Token}
    (htoken : (config.analyze (written pieces) caret).activeToken? = some token) :
    exists earlier later,
      Sentence 0 (earlier ++ { chars := value.toList, kind := request.rule.name } :: later) ∧
        (earlier ++ { chars := value.toList, kind := request.rule.name } :: later).map
          Scan.Piece.kind = pieces.map Scan.Piece.kind ∧
        Edit.insert (written pieces) request value =
          caretAfter earlier { chars := value.toList, kind := request.rule.name } later := by
  have hmem : token ∈ (config.parse (written pieces)).flatMap Statement.tokens :=
    Focus.mem_of_activeToken? htoken
  rw [parse_tokens_sentence hsentence] at hmem
  rcases Scan.mem_layOut hmem with ⟨earlier, piece, later, rfl, rfl⟩
  rcases Request.ofAnalysis?_on_token htoken hrequest with ⟨hrule, hreplace, _⟩
  have hname : request.rule.name = piece.kind := (Config.mem_rules_of_ruleFor? hrule).2
  have hspan : request.replace =
      { start := Text.byteLength (earlier.flatMap Scan.Piece.chars)
        stop := Text.byteLength (earlier.flatMap Scan.Piece.chars) +
          Text.byteLength piece.chars } := by
    rw [hreplace, Nat.zero_add]
    rfl
  rw [hname] at hvalue ⊢
  refine ⟨earlier, later, sentence_replace hsentence hvalue, by simp, ?_⟩
  rw [Edit.insert, hspan, written, List.flatMap_append, List.flatMap_cons, Edit.splice_part]
  simp [caretAfter, written]

theorem insert_at_end (hnone : (config.analyze (written pieces) caret).activeToken? = none)
    (hcaret : (written pieces).utf8ByteSize ≤ caret) :
    Sentence 0 (pieces ++ [{ chars := value.toList, kind := request.rule.name }]) ∧
      (exists prediction, (config.analyze (written pieces) caret).prediction = some prediction ∧
        request.rule.name = prediction.kind) ∧
      Edit.insert (written pieces) request value =
        caretAfter pieces { chars := value.toList, kind := request.rule.name } [] := by
  rcases Request.ofAnalysis?_off_token hnone hrequest with ⟨prediction, hprediction, rfl⟩
  rcases analyze_prediction hprediction with ⟨hexpected, hrule, hspan⟩
  have hname : prediction.rule.name = prediction.kind := (Config.mem_rules_of_ruleFor? hrule).2
  have hnext : cyclicKind config (0 + (solidPieces pieces).length) = prediction.kind := by
    -- the prediction counts the fields of the last statement only, the sentence counts them all
    rw [Focus.activeStatement?_at_end hcaret hnone] at hexpected
    have hkind := Matching.cyclicKind_of_expected tokens_valid (no_errors_of_sentence hsentence)
      hexpected
    rw [tokens_sentence hsentence, solidKinds_layOut, List.length_map] at hkind
    rw [Nat.zero_add, hkind]
  have hkind : (Request.ofPrediction (config.analyze (written pieces) caret).activeStatement?
      prediction).rule.name = cyclicKind config (0 + (solidPieces pieces).length) := by
    rw [hnext]
    exact hname
  rw [hkind] at hvalue ⊢
  refine ⟨sentence_append hsentence hvalue, ⟨prediction, hprediction, hnext⟩, ?_⟩
  rw [Edit.insert, Request.ofPrediction, hspan, Edit.splice_past_end hcaret]
  simp [caretAfter, written, ← Text.byteLength_toList]

theorem accepted_on_token {token : Token}
    (htoken : (config.analyze (written pieces) caret).activeToken? = some token) :
    Accepted (config.analyze (written pieces) caret) request value
      (config.analyze (Edit.insert (written pieces) request value).text
        (Edit.insert (written pieces) request value).caret) := by
  have hfield := isFiller_of_rule (Request.ofAnalysis?_rule_mem hrequest).1
  rcases insert_on_token hsentence hrequest hvalue htoken with
    ⟨earlier, later, hchanged, hkinds, hedit⟩
  rw [hedit]
  constructor
  case no_errors => exact hasErrors_eq_false_iff.mpr (no_errors_of_sentence hchanged)
  case active =>
    exact ⟨_, activeToken?_caretAfter hchanged hfield, String.ofList_toList, rfl⟩
  case replaced =>
    intro _
    show fieldKinds (config.parse (written _)) = fieldKinds (config.parse (written _))
    rw [fieldKinds_sentence hchanged, fieldKinds_sentence hsentence, solidPieces_map_kind, hkinds,
      ← solidPieces_map_kind]
  case appended =>
    intro hnone
    rw [htoken] at hnone
    cases hnone

theorem accepted_at_end (hnone : (config.analyze (written pieces) caret).activeToken? = none)
    (hcaret : (written pieces).utf8ByteSize ≤ caret) :
    Accepted (config.analyze (written pieces) caret) request value
      (config.analyze (Edit.insert (written pieces) request value).text
        (Edit.insert (written pieces) request value).caret) := by
  have hrule := (Request.ofAnalysis?_rule_mem hrequest).1
  have hfield := isFiller_of_rule hrule
  have hsolid := config.wellFormed.names_ne_whitespace request.rule hrule
  rcases insert_at_end hsentence hrequest hvalue hnone hcaret with
    ⟨hchanged, ⟨prediction, hprediction, hkind⟩, hedit⟩
  rw [hedit]
  constructor
  case no_errors => exact hasErrors_eq_false_iff.mpr (no_errors_of_sentence hchanged)
  case active =>
    exact ⟨_, activeToken?_caretAfter hchanged hfield, String.ofList_toList, rfl⟩
  case replaced =>
    intro hsome
    rw [hnone] at hsome
    cases hsome
  case appended =>
    intro _
    refine ⟨prediction, hprediction, ?_⟩
    show fieldKinds (config.parse (written _)) = fieldKinds (config.parse (written _)) ++ _
    rw [fieldKinds_sentence hchanged, fieldKinds_sentence hsentence, solidPieces_concat hsolid,
      List.map_append, ← hkind]
    rfl

end Insert

theorem fetched_values_accepted (text : String) (caret page pageSize : Nat) (request : Request)
    (hclean : (config.analyze text caret).hasErrors = false)
    (hrequest : Request.ofAnalysis? config (config.analyze text caret) = some request)
    (hplace : (config.analyze text caret).activeToken?.isSome = true ∨
      text.utf8ByteSize ≤ caret) :
    exists values, request.fetch page pageSize = .ok values ∧
      forall value, value ∈ values ->
        Accepted (config.analyze text caret) request value
          (config.analyze (Edit.insert text request value).text
            (Edit.insert text request value).caret) := by
  rcases exists_sentence (hasErrors_eq_false_iff.mp hclean) with ⟨pieces, hsentence, rfl⟩
  rcases Request.ofAnalysis?_rule_mem hrequest with ⟨hrule, hcontext⟩
  have hstem : '"' ∉ (Source.stemOf request.context).toList := by
    apply quote_not_mem_stemOf
    intro statement hstatement
    rw [hcontext] at hstatement
    exact mem_of_activeStatement? hstatement
  rcases fetch_offers_lexemes hrule hstem page pageSize with ⟨values, hfetch, hlexemes⟩
  refine ⟨values, hfetch, ?_⟩
  intro value hvalue
  cases hactive : (config.analyze (written pieces) caret).activeToken? with
  | some token => exact accepted_on_token hsentence hrequest (hlexemes value hvalue) hactive
  | none =>
      have hcaret : (written pieces).utf8ByteSize ≤ caret := by
        rw [hactive] at hplace
        exact hplace.resolve_left (by simp)
      exact accepted_at_end hsentence hrequest (hlexemes value hvalue) hactive hcaret

/-- A name between a number and an operator, with no white space, is exchanged for another. -/
theorem foo0_accepted :
    exists request, Request.ofAnalysis? config (config.analyze "a=1o<2" 4) = some request ∧
      request.fetch 0 1 = .ok ["foo0"] ∧
      Edit.insert "a=1o<2" request "foo0" = { text := "a=1foo0<2", caret := 7 } ∧
      Accepted (config.analyze "a=1o<2" 4) request "foo0" (config.analyze "a=1foo0<2" 7) := by
  have hsome : (Request.ofAnalysis? config (config.analyze "a=1o<2" 4)).isSome = true := by
    decide +kernel
  have hfetch : (Request.ofAnalysis? config (config.analyze "a=1o<2" 4)).map
      (fun request => request.fetch 0 1) = some (.ok ["foo0"]) := by
    decide +kernel
  have hedit : (Request.ofAnalysis? config (config.analyze "a=1o<2" 4)).map
      (fun request => Edit.insert "a=1o<2" request "foo0") =
        some { text := "a=1foo0<2", caret := 7 } := by
    decide +kernel
  rcases Option.isSome_iff_exists.mp hsome with ⟨request, hrequest⟩
  rw [hrequest] at hfetch hedit
  rcases fetched_values_accepted "a=1o<2" 4 0 1 request (by decide +kernel) hrequest
    (by decide +kernel) with ⟨values, hvalues, haccepted⟩
  have hsame : values = ["foo0"] := Except.ok.inj (hvalues.symm.trans (Option.some.inj hfetch))
  have hinsert : Edit.insert "a=1o<2" request "foo0" = { text := "a=1foo0<2", caret := 7 } :=
    Option.some.inj hedit
  have hvalue := haccepted "foo0" (by simp [hsame])
  rw [hinsert] at hvalue
  exact ⟨request, hrequest, Option.some.inj hfetch, hinsert, hvalue⟩

end Builtin
end FieldGrammar
