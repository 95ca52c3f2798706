import FieldGrammar.Proofs.Edit
import FieldGrammar.Proofs.Prediction

/-!
# The edits at the caret agree

A text is edited at the caret in three ways: the token under the caret is replaced,
values are added at the end, or a chosen value is put where its request wants it.
They go through different spans.  On a token, the request wants the span of the
token; off every token, it wants the caret, which is the end of the text when it
stands there or past it.
-/

namespace FieldGrammar
namespace Edit

/-!
# On a token
-/

/-- The text around the token under the caret. -/
theorem activeToken?_parts {config : Config} {text : String} {caret : Nat} {token : Token}
    (h : (config.analyze text caret).activeToken? = some token) :
    exists before after, text = before ++ token.text ++ after ∧
      token.span.start = before.utf8ByteSize ∧
      token.span.stop = (before ++ token.text).utf8ByteSize := by
  rcases Scan.tokens_place (activeToken?_scanned h) with
    ⟨before, piece, after, _, htext, hplaced⟩
  have hchars : token.text = String.ofList piece.chars := congrArg Token.text hplaced
  have hstart : token.span.start = Text.byteLength before :=
    congrArg (fun placed => placed.span.start) hplaced
  have hstop : token.span.stop = Text.byteLength before + Text.byteLength piece.chars :=
    congrArg (fun placed => placed.span.stop) hplaced
  refine ⟨String.ofList before, String.ofList after, ?_, ?_, ?_⟩
  · apply String.toList_inj.mp
    rw [hchars, htext]
    simp
  · rw [hstart, ← Text.byteLength_toList, String.toList_ofList]
  · rw [hstop, hchars, ← String.ofList_append, ← Text.byteLength_toList, String.toList_ofList,
      Text.byteLength_append]

theorem request_on_token {config : Config} {text : String} {caret : Nat} {token : Token}
    (h : (config.analyze text caret).activeToken? = some token) :
    exists request, Request.ofAnalysis? config (config.analyze text caret) = some request := by
  cases hrequest : Request.ofAnalysis? config (config.analyze text caret) with
  | some request => exact ⟨request, rfl⟩
  | none =>
      have hnone := ((ofAnalysis?_eq_none_iff config text caret).mp hrequest).1
      rw [h] at hnone
      cases hnone

/-!
# At a point

Both ends of a zero-length span are taken to the same boundary, so nothing is
removed there, also when the point is inside a character.
-/

theorem CutAt.removed_at_point {text : String} {offset : Nat} {before removed after : String}
    (h : CutAt text (Span.point offset) before removed after) : removed = "" := by
  rcases h.stop with ⟨floor, hfloor, hstop⟩
  have hsame : floor = before.utf8ByteSize := hfloor.unique h.start
  rw [hsame, Nat.max_self, String.utf8ByteSize_append, Nat.add_eq_left] at hstop
  exact String.utf8ByteSize_eq_zero_iff.mp hstop

theorem splice_nothing_at_point (text : String) (offset : Nat) :
    (splice text (Span.point offset) "").text = text := by
  rcases exists_cutAt text (Span.point offset) with ⟨before, removed, after, hcut⟩
  have htext := hcut.parts
  rw [hcut.removed_at_point] at htext
  rw [splice_of_cutAt hcut, ← htext]

/-- Past the end of the text, the value is added to it. -/
theorem splice_at_end {text : String} {offset : Nat} (h : text.utf8ByteSize ≤ offset)
    (value : String) :
    splice text (Span.point offset) value =
      { text := text ++ value, caret := (text ++ value).utf8ByteSize } := by
  rw [splice_past_end h, Text.byteLength_toList, String.ofList_append, String.ofList_toList,
    String.ofList_toList, String.utf8ByteSize_append]

theorem append_one (text value : String) :
    append text [value] =
      { text := text ++ value, caret := (text ++ value).utf8ByteSize } := by
  have hsize : text.utf8ByteSize ≤ Text.byteLength text.toList :=
    Nat.le_of_eq (Text.byteLength_toList text).symm
  exact splice_at_end hsize value

theorem insert_off_token {config : Config} {text : String} {caret : Nat} {request : Request}
    (hnone : (config.analyze text caret).activeToken? = none)
    (hrequest : Request.ofAnalysis? config (config.analyze text caret) = some request)
    (value : String) :
    request.query = "" ∧ insert text request value = splice text (Span.point caret) value := by
  rcases Request.ofAnalysis?_off_token hnone hrequest with ⟨prediction, hprediction, rfl⟩
  rw [insert, Request.ofPrediction, (analyze_prediction hprediction).2.2]
  exact ⟨rfl, rfl⟩

/-!
# Agreement
-/

/-- How the edits at the caret of an analysed text are told from each other. -/
structure Agreement (config : Config) (text : String) (caret : Nat) (analysis : Analysis) :
    Prop where
  on_token : forall token, analysis.activeToken? = some token ->
    exists request before after, Request.ofAnalysis? config analysis = some request ∧
      text = before ++ token.text ++ after ∧
      token.span.start = before.utf8ByteSize ∧
      token.span.stop = (before ++ token.text).utf8ByteSize ∧
      forall values,
        replaceActive text analysis values =
          .ok (insert text request (",".intercalate values)) ∧
        (insert text request (",".intercalate values)).text =
          before ++ ",".intercalate values ++ after
  off_token : analysis.activeToken? = none -> forall values,
    replaceActive text analysis values = .error .noActiveToken
  at_end : analysis.activeToken? = none -> text.utf8ByteSize ≤ caret ->
    forall request, Request.ofAnalysis? config analysis = some request -> forall value,
    insert text request value = append text [value] ∧
      append text [value] = { text := text ++ value, caret := (text ++ value).utf8ByteSize }
  own_query : forall request, Request.ofAnalysis? config analysis = some request ->
    (insert text request request.query).text = text

theorem analyze_edits_agree (config : Config) (text : String) (caret : Nat) :
    Agreement config text caret (config.analyze text caret) := by
  constructor
  case on_token =>
    intro token htoken
    rcases request_on_token htoken with ⟨request, hrequest⟩
    rcases activeToken?_parts htoken with ⟨before, after, htext, hstart, hstop⟩
    have hreplace := (Request.ofAnalysis?_on_token htoken hrequest).2.1
    refine ⟨request, before, after, hrequest, htext, hstart, hstop, ?_⟩
    intro values
    constructor
    · simp only [replaceActive, htoken, insert, hreplace, join]
    · rw [insert, hreplace, htext, splice_between hstart hstop]
  case off_token =>
    intro hnone values
    simp only [replaceActive, hnone]
  case at_end =>
    intro hnone hcaret request hrequest value
    have hinsert := (insert_off_token hnone hrequest value).2
    rw [hinsert, splice_at_end hcaret, append_one]
    exact ⟨rfl, rfl⟩
  case own_query =>
    intro request hrequest
    cases hactive : (config.analyze text caret).activeToken? with
    | some token =>
        rcases activeToken?_parts hactive with ⟨before, after, htext, hstart, hstop⟩
        rw [insert, (Request.ofAnalysis?_on_token hactive hrequest).2.1,
          Request.ofAnalysis?_query hactive hrequest, htext, splice_between hstart hstop]
    | none =>
        rcases insert_off_token hactive hrequest request.query with ⟨hquery, hinsert⟩
        rw [hinsert, hquery, splice_nothing_at_point]

end Edit
end FieldGrammar
