import FieldGrammar.Command.Run
import FieldGrammar.Proofs.Json.Reader
import FieldGrammar.Proofs.Tiling

/-!
# Records read back

A record whose offsets are in range is read back from its JSON value, and from both
texts of that value.  The offsets of an analysis are in range when the text is no longer
than offsets can count, so its statements are read back from what is printed for it.
-/

namespace FieldGrammar

namespace Json

/-- The value is read back from its JSON value and from the texts of it. -/
structure ReadBack {α : Type} (encode : α -> Json) (decode : Json -> Option α) (value : α) :
    Prop where
  json : decode (encode value) = some value
  compact : (parse? (encode value).compact).bind decode = some value
  pretty : (parse? (encode value).pretty).bind decode = some value

theorem readBack_of_plain {α : Type} {encode : α -> Json} {decode : Json -> Option α} {value : α}
    (hplain : (encode value).plain = true) (hvalue : decode (encode value) = some value) :
    ReadBack encode decode value := by
  have hcompact := parse?_compact hplain blank_nil
  have hpretty := parse?_pretty hplain blank_nil
  rw [String.ofList_nil, String.append_empty] at hcompact hpretty
  constructor
  case json => exact hvalue
  case compact => rw [hcompact, Option.bind_some, hvalue]
  case pretty => rw [hpretty, Option.bind_some, hvalue]

/-!
# Parts of records
-/

theorem offset?_natural {n : Nat} (h : n < Text.offsetBound) : offset? (natural n) = some n := by
  rw [offset?, if_pos h]

theorem listOf?_map {α : Type} {encode : α -> Json} {decode : Json -> Option α} {values : List α}
    (h : forall value, value ∈ values -> decode (encode value) = some value) :
    listOf? decode (array (values.map encode)) = some values := by
  rw [listOf?]
  induction values with
  | nil => rfl
  | cons value rest ih =>
      rw [List.forall_mem_cons] at h
      simp [h.1, ih h.2]

/-- A record is not null, so nothing stands for it but itself. -/
theorem nullable?_ofOption {α : Type} {encode : α -> Json} {decode : Json -> Option α}
    {value : Option α} (hnull : decode null = none)
    (h : forall inner, value = some inner -> decode (encode inner) = some inner) :
    nullable? decode (ofOption encode value) = some value := by
  cases value with
  | none => rfl
  | some inner =>
      have hinner := h inner rfl
      rw [ofOption, nullable?, hinner, Option.map_some]
      intro hsame
      rw [hsame, hnull] at hinner
      cases hinner

theorem plain_ofOption {α : Type} {encode : α -> Json} (value : Option α)
    (h : forall inner, (encode inner).plain = true) : (ofOption encode value).plain = true := by
  cases value with
  | none => simp [ofOption, plain]
  | some inner => exact h inner

end Json

open Json

/-!
# Records of offsets
-/

namespace Span

def InRange (span : Span) : Prop :=
  span.start < Text.offsetBound ∧ span.stop < Text.offsetBound

theorem plain_toJson (span : Span) : span.toJson.plain = true := by
  simp [toJson, plain, plainMembers]

theorem ofJson?_toJson {span : Span} (h : span.InRange) : ofJson? span.toJson = some span := by
  have hstart := offset?_natural h.1
  have hstop := offset?_natural h.2
  simp [toJson, ofJson?, required?, member?, hstart, hstop]

end Span

namespace Token

theorem plain_toJson (token : Token) : token.toJson.plain = true := by
  cases h : token.invalid <;> simp [toJson, plain, plainMembers, Span.plain_toJson, h]

theorem ofJson?_toJson {token : Token} (h : token.span.InRange) :
    ofJson? token.toJson = some token := by
  rcases token with ⟨text, kind, span, invalid⟩
  have hspan := Span.ofJson?_toJson h
  cases invalid <;>
    simp [toJson, ofJson?, required?, optional?, member?, string?, bool?, hspan]

theorem invalid_mem_keys (token : Token) :
    "invalid" ∈ token.toJson.keys ↔ token.invalid = true := by
  cases h : token.invalid <;> simp [toJson, keys, h]

end Token

namespace Mismatch

theorem plain_toJson (mismatch : Mismatch) : mismatch.toJson.plain = true := by
  simp [toJson, plain, plainMembers, Span.plain_toJson]

theorem ofJson?_toJson {mismatch : Mismatch} (h : mismatch.span.InRange) :
    ofJson? mismatch.toJson = some mismatch := by
  have hspan := Span.ofJson?_toJson h
  simp [toJson, ofJson?, required?, member?, string?, hspan]

end Mismatch

namespace Statement

/-- The offsets of the tokens and of the error are in range. -/
structure InRange (statement : Statement) : Prop where
  tokens : forall token, token ∈ statement.tokens -> token.span.InRange
  error : forall mismatch, statement.error = some mismatch -> mismatch.span.InRange

theorem plain_toJson (statement : Statement) : statement.toJson.plain = true := by
  have htokens := plainItems_map fun token (_ : token ∈ statement.tokens) =>
    Token.plain_toJson token
  have herror := plain_ofOption statement.error Mismatch.plain_toJson
  simp [toJson, plain, plainMembers, htokens, herror]

theorem ofJson?_toJson {statement : Statement} (h : statement.InRange) :
    ofJson? statement.toJson = some statement := by
  have htokens := listOf?_map fun token htoken => Token.ofJson?_toJson (h.tokens token htoken)
  have herror := nullable?_ofOption rfl fun mismatch hmismatch =>
    Mismatch.ofJson?_toJson (h.error mismatch hmismatch)
  simp [toJson, ofJson?, required?, optional?, member?, bool?, htokens, herror]

end Statement

namespace Focus

structure InRange (focus : Focus) : Prop where
  statement : focus.statement < Text.offsetBound
  token : forall index, focus.token = some index -> index < Text.offsetBound

theorem plain_toJson (focus : Focus) : focus.toJson.plain = true := by
  have htoken := plain_ofOption focus.token fun index => show plain (natural index) = true by
    simp [plain]
  simp [toJson, plain, plainMembers, htoken]

theorem ofJson?_toJson {focus : Focus} (h : focus.InRange) :
    ofJson? focus.toJson = some focus := by
  have hstatement := offset?_natural h.statement
  have htoken := nullable?_ofOption rfl fun index hindex => offset?_natural (h.token index hindex)
  simp [toJson, ofJson?, required?, optional?, member?, hstatement, htoken]

end Focus

/-!
# Analyses
-/

namespace Prediction

theorem plain_toJson (prediction : Prediction) : prediction.toJson.plain = true := by
  simp [toJson, plain, plainMembers, Span.plain_toJson]

end Prediction

namespace Analysis

/-- The statements that an analysis is said to have. -/
def statements? : Json -> Option (List Statement)
  | .object members => required? members "statements" (listOf? Statement.ofJson?)
  | _ => none

theorem plain_toJson (analysis : Analysis) : analysis.toJson.plain = true := by
  have hstatements := plainItems_map fun statement (_ : statement ∈ analysis.statements) =>
    Statement.plain_toJson statement
  have hfocus := plain_ofOption analysis.focus Focus.plain_toJson
  have hprediction := plain_ofOption analysis.prediction Prediction.plain_toJson
  simp [toJson, plain, plainMembers, hstatements, hfocus, hprediction]

theorem statements?_toJson {analysis : Analysis}
    (h : forall statement, statement ∈ analysis.statements -> statement.InRange) :
    statements? analysis.toJson = some analysis.statements :=
  listOf?_map fun statement hmem => Statement.ofJson?_toJson (h statement hmem)

end Analysis

/-- Offsets in a text count its bytes. -/
theorem parse_inRange {config : Config} {text : String} {statement : Statement}
    (h : text.utf8ByteSize < Text.offsetBound) (hmem : statement ∈ config.parse text) :
    statement.InRange := by
  have htokens : forall token, token ∈ statement.tokens -> token.span.InRange := by
    intro token htoken
    have hbounds := tiles_mem (tiles_parse config text)
      (List.mem_flatMap.mpr ⟨statement, hmem, htoken⟩)
    have hstop : token.span.stop < Text.offsetBound := Nat.lt_of_le_of_lt hbounds.2.2 h
    exact ⟨Nat.lt_trans hbounds.2.1 hstop, hstop⟩
  refine ⟨htokens, ?_⟩
  intro mismatch herror
  rcases parse_error_token hmem herror with ⟨token, htoken, hspan, _⟩
  rw [hspan]
  exact htokens token htoken

namespace Command

/-- The two texts that can be printed for an analysis have one JSON value. -/
theorem parse?_runParse (config : Config) (text : String) (caret : Option Nat) (pretty : Bool) :
    Json.parse? (runParse config text caret pretty).output =
      some (config.analyze text (caretOf text caret)).toJson := by
  have hplain := Analysis.plain_toJson (config.analyze text (caretOf text caret))
  cases pretty with
  | false => exact parse?_compact hplain (blank_newLine 0)
  | true => exact parse?_pretty hplain (blank_newLine 0)

end Command

/-- Records are read back from their JSON form, and so are the statements of an analysis from
what is printed for it, in either layout. -/
theorem records_readBack :
    (forall span : Span, span.InRange -> ReadBack Span.toJson Span.ofJson? span) ∧
    (forall token : Token, token.span.InRange -> ReadBack Token.toJson Token.ofJson? token) ∧
    (forall token : Token, "invalid" ∈ token.toJson.keys ↔ token.invalid = true) ∧
    (forall mismatch : Mismatch, mismatch.span.InRange ->
      ReadBack Mismatch.toJson Mismatch.ofJson? mismatch) ∧
    (forall statement : Statement, statement.InRange ->
      ReadBack Statement.toJson Statement.ofJson? statement) ∧
    (forall focus : Focus, focus.InRange -> ReadBack Focus.toJson Focus.ofJson? focus) ∧
    (forall (config : Config) (text : String) (caret : Option Nat),
      text.utf8ByteSize < Text.offsetBound -> exists json,
        (forall pretty, Json.parse? (Command.runParse config text caret pretty).output =
          some json) ∧
        Analysis.statements? json =
          some (config.analyze text (Command.caretOf text caret)).statements) := by
  refine ⟨?_, ?_, Token.invalid_mem_keys, ?_, ?_, ?_, ?_⟩
  · intro span h
    exact readBack_of_plain span.plain_toJson (Span.ofJson?_toJson h)
  · intro token h
    exact readBack_of_plain token.plain_toJson (Token.ofJson?_toJson h)
  · intro mismatch h
    exact readBack_of_plain mismatch.plain_toJson (Mismatch.ofJson?_toJson h)
  · intro statement h
    exact readBack_of_plain statement.plain_toJson (Statement.ofJson?_toJson h)
  · intro focus h
    exact readBack_of_plain focus.plain_toJson (Focus.ofJson?_toJson h)
  · intro config text caret h
    refine ⟨_, Command.parse?_runParse config text caret, ?_⟩
    exact Analysis.statements?_toJson fun statement hmem => parse_inRange h hmem

/-- A flagged token that needs escapes and ends at the last offset, a statement of it with an
error, and its text as the input of a command. -/
theorem records_readBack_escaped :
    let token : Token :=
      { text := "\"\\\n\x01é"
        kind := "unknown"
        span := { start := 18446744073709551609, stop := 18446744073709551615 }
        invalid := true }
    let statement : Statement :=
      { tokens := [token]
        error := some { expected := "word", found := token.kind, span := token.span }
        incomplete := true }
    token.span.InRange ∧ statement.InRange ∧
      ReadBack Token.toJson Token.ofJson? token ∧
      ReadBack Statement.toJson Statement.ofJson? statement ∧
      "invalid" ∈ token.toJson.keys ∧
      token.text.utf8ByteSize < Text.offsetBound ∧
      (exists json,
        (forall pretty,
          Json.parse? (Command.runParse Builtin.config token.text none pretty).output =
            some json) ∧
        Analysis.statements? json =
          some (Builtin.config.analyze token.text
            (Command.caretOf token.text none)).statements) := by
  intro token statement
  have htoken : token.span.InRange := ⟨by decide, by decide⟩
  have hstatement : statement.InRange := by
    constructor
    case tokens =>
      intro other hother
      rw [List.mem_singleton.mp hother]
      exact htoken
    case error =>
      rintro mismatch ⟨⟩
      exact htoken
  have hsize : token.text.utf8ByteSize < Text.offsetBound := by decide
  rcases records_readBack with ⟨_, htokens, hkeys, _, hstatements, _, hprinted⟩
  exact ⟨htoken, hstatement, htokens token htoken, hstatements statement hstatement,
    (hkeys token).mpr rfl, hsize, hprinted Builtin.config token.text none hsize⟩

end FieldGrammar
