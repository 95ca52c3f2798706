import FieldGrammar.Proofs.Focus
import FieldGrammar.Proofs.Suggestion

/-!
# Predictions and requests follow the statements

A field is predicted exactly where the statement under the caret still misses one, and
a request exists exactly where there is a field under the caret or a predicted one.
Both ask the configuration for a rule by its name.  That rule is always there: the kind
of a token under the caret is the name of a rule, and so is every name of the format.
-/

namespace FieldGrammar

/-!
# Rules by their name
-/

namespace Config

/-- The rule is the only one of the configuration with this name. -/
def OnlyRule (config : Config) (kind : String) (rule : Rule) : Prop :=
  config.rules.filter (fun other => other.name == kind) = [rule]

theorem filter_name_of_nodup {rules : List Rule} {rule : Rule}
    (hnodup : (rules.map Rule.name).Nodup) (hmem : rule ∈ rules) :
    rules.filter (fun other => other.name == rule.name) = [rule] := by
  induction rules with
  | nil => cases hmem
  | cons first rest ih =>
      rw [List.map_cons, List.nodup_cons] at hnodup
      rcases List.mem_cons.mp hmem with rfl | hlater
      · have hnone : rest.filter (fun other => other.name == rule.name) = [] := by
          rw [List.filter_eq_nil_iff]
          intro other hother hname
          rw [beq_iff_eq] at hname
          exact hnodup.1 (hname ▸ List.mem_map_of_mem hother)
        rw [List.filter_cons_of_pos (by simp), hnone]
      · have hname : (first.name == rule.name) = false := by
          rw [beq_eq_false_iff_ne]
          intro hsame
          exact hnodup.1 (hsame ▸ List.mem_map_of_mem hlater)
        rw [List.filter_cons_of_neg (by simp [hname])]
        exact ih hnodup.2 hlater

theorem onlyRule_of_ruleFor? {config : Config} {kind : String} {rule : Rule}
    (h : config.ruleFor? kind = some rule) : config.OnlyRule kind rule := by
  rcases mem_rules_of_ruleFor? h with ⟨hmem, rfl⟩
  exact filter_name_of_nodup config.wellFormed.names_nodup hmem

theorem ruleFor?_of_mem {config : Config} {kind : String}
    (h : kind ∈ config.rules.map Rule.name) : exists rule, config.ruleFor? kind = some rule := by
  rcases List.mem_map.mp h with ⟨rule, hmem, rfl⟩
  apply Option.isSome_iff_exists.mp
  rw [ruleFor?, List.find?_isSome]
  exact ⟨rule, hmem, beq_self_eq_true _⟩

theorem ruleFor?_of_expectedAt? {config : Config} {filled : Nat} {kind : String}
    (h : config.expectedAt? filled = some kind) :
    exists rule, config.ruleFor? kind = some rule :=
  ruleFor?_of_mem (config.wellFormed.format_subset kind (List.mem_of_getElem? h))

end Config

/-!
# The token under the caret
-/

theorem activeToken?_onField {config : Config} {text : String} {caret : Nat} {token : Token}
    (h : (config.analyze text caret).activeToken? = some token) :
    Focus.onField config caret token = true := by
  simp only [Analysis.activeToken?, Option.bind_eq_bind, Option.bind_eq_some_iff] at h
  rcases h with ⟨focus, hfocus, statement, hstatement, j, hj, htoken⟩
  exact Focus.resolve_onField hfocus hj ⟨statement, hstatement, htoken⟩

/-- It is one of the tokens of the text, but for its flag. -/
theorem activeToken?_scanned {config : Config} {text : String} {caret : Nat} {token : Token}
    (h : (config.analyze text caret).activeToken? = some token) :
    Matching.unflag token ∈ config.tokens text := by
  rw [← parse_tokens_unflag]
  exact List.mem_map_of_mem (Focus.mem_of_activeToken? h)

theorem activeToken?_ruleFor? {config : Config} {text : String} {caret : Nat} {token : Token}
    (h : (config.analyze text caret).activeToken? = some token) :
    exists rule, config.ruleFor? token.kind = some rule := by
  have hfield := activeToken?_onField h
  have hkind := (Scan.partition_tokens text config.rules config.defaultKind).kind
    (Matching.unflag token) (activeToken?_scanned h)
  rw [Focus.onField, Bool.and_eq_true, Bool.not_eq_true', Config.isFiller, Bool.or_eq_false_iff,
    beq_eq_false_iff_ne, beq_eq_false_iff_ne] at hfield
  rcases hkind with hrule | hblank | hdefault
  · exact Config.ruleFor?_of_mem hrule
  · exact absurd hblank hfield.2.1
  · exact absurd hdefault hfield.2.2

/-!
# The predicted field
-/

/-- The fields of the statement under the caret, none when there is no statement. -/
def Analysis.filled (analysis : Analysis) : Nat :=
  (analysis.activeStatement?.map Statement.fieldCount).getD 0

theorem activeStatement?_wellFormed {config : Config} {text : String} {caret : Nat}
    {statement : Statement}
    (h : (config.analyze text caret).activeStatement? = some statement) :
    Matching.WellFormed config statement :=
  Matching.statements_wellFormed (tokens_unflagged config text) (mem_of_activeStatement? h)

theorem filled_lt_iff (config : Config) (text : String) (caret : Nat) :
    (config.analyze text caret).filled < config.fieldCount <->
      (config.analyze text caret).activeStatement? = none ∨
        exists statement, (config.analyze text caret).activeStatement? = some statement ∧
          statement.incomplete = true := by
  cases hactive : (config.analyze text caret).activeStatement? with
  | none => simp [Analysis.filled, hactive, Matching.fieldCount_pos config]
  | some statement =>
      have hincomplete := (activeStatement?_wellFormed hactive).incomplete_iff
      simp [Analysis.filled, hactive, hincomplete]

theorem prediction_isSome_iff (config : Config) (text : String) (caret : Nat) :
    (config.analyze text caret).prediction.isSome = true <->
      (config.analyze text caret).filled < config.fieldCount := by
  rw [Option.isSome_iff_exists]
  constructor
  · rintro ⟨prediction, hprediction⟩
    have hkind := (analyze_prediction hprediction).1
    exact (List.getElem?_eq_some_iff.mp hkind).1
  · intro hlt
    rcases Matching.expectedAt?_of_lt hlt with ⟨kind, hkind⟩
    rcases Config.ruleFor?_of_expectedAt? hkind with ⟨rule, hrule⟩
    refine ⟨{ kind := kind, span := Span.point caret, rule := rule }, ?_⟩
    show Prediction.next? config (config.analyze text caret).activeStatement? caret = _
    rw [Analysis.filled] at hkind
    simp [Prediction.next?, hkind, hrule]

/-- The prediction, told from the statement under the caret. -/
structure PredictedFrom (config : Config) (caret : Nat) (analysis : Analysis) : Prop where
  isSome_iff : analysis.prediction.isSome = true <->
    analysis.activeStatement? = none ∨
      exists statement, analysis.activeStatement? = some statement ∧ statement.incomplete = true
  kind_first : forall prediction, analysis.prediction = some prediction ->
    analysis.activeStatement? = none -> config.format[0]? = some prediction.kind
  kind_next : forall prediction, analysis.prediction = some prediction -> forall statement,
    analysis.activeStatement? = some statement ->
    config.format[statement.fieldCount]? = some prediction.kind
  span : forall prediction, analysis.prediction = some prediction ->
    prediction.span = Span.point caret
  rule : forall prediction, analysis.prediction = some prediction ->
    config.OnlyRule prediction.kind prediction.rule

theorem analyze_predictedFrom (config : Config) (text : String) (caret : Nat) :
    PredictedFrom config caret (config.analyze text caret) := by
  constructor
  case isSome_iff =>
    rw [prediction_isSome_iff, filled_lt_iff]
  case kind_first =>
    intro prediction hprediction hnone
    have hkind := (analyze_prediction hprediction).1
    rw [hnone] at hkind
    exact hkind
  case kind_next =>
    intro prediction hprediction statement hstatement
    have hkind := (analyze_prediction hprediction).1
    rw [hstatement] at hkind
    exact hkind
  case span =>
    intro prediction hprediction
    exact (analyze_prediction hprediction).2.2
  case rule =>
    intro prediction hprediction
    exact Config.onlyRule_of_ruleFor? (analyze_prediction hprediction).2.1

/-!
# The request
-/

/-- The request, told from the token under the caret or else from the prediction. -/
structure RequestedFrom (config : Config) (text : String) (caret : Nat) (analysis : Analysis) :
    Prop where
  none_iff : Request.ofAnalysis? config analysis = none <->
    analysis.activeToken? = none ∧
      exists statement, analysis.activeStatement? = some statement ∧ statement.incomplete = false
  token_rule : forall token, analysis.activeToken? = some token ->
    exists rule, config.ruleFor? token.kind = some rule
  format_rule : forall kind, kind ∈ config.format ->
    exists rule, config.ruleFor? kind = some rule
  on_token : forall request, Request.ofAnalysis? config analysis = some request ->
    forall token, analysis.activeToken? = some token ->
    config.OnlyRule token.kind request.rule ∧ request.query = token.text ∧
      request.replace.touches caret = true ∧
      Text.boundary request.replace.start text.toList = request.replace.start ∧
      Text.boundary request.replace.stop text.toList = request.replace.stop ∧
      String.ofList (request.replace.extract text.toList) = request.query
  off_token : forall request, Request.ofAnalysis? config analysis = some request ->
    analysis.activeToken? = none ->
    request.query = "" ∧ exists prediction, analysis.prediction = some prediction ∧
      request.replace = prediction.span ∧ request.rule = prediction.rule
  context : forall request, Request.ofAnalysis? config analysis = some request ->
    request.context = analysis.activeStatement?

theorem ofAnalysis?_eq_none_iff (config : Config) (text : String) (caret : Nat) :
    Request.ofAnalysis? config (config.analyze text caret) = none <->
      (config.analyze text caret).activeToken? = none ∧
        exists statement, (config.analyze text caret).activeStatement? = some statement ∧
          statement.incomplete = false := by
  cases hactive : (config.analyze text caret).activeToken? with
  | some token =>
      rcases activeToken?_ruleFor? hactive with ⟨rule, hrule⟩
      simp [Request.ofAnalysis?, hactive, Request.ofToken?, hrule]
  | none =>
      have hsome := (analyze_predictedFrom config text caret).isSome_iff
      rw [Request.ofAnalysis?, hactive]
      show Option.map _ _ = none <-> _
      rw [Option.map_eq_none_iff, ← Option.not_isSome_iff_eq_none, hsome]
      cases hstatement : (config.analyze text caret).activeStatement? with
      | none => simp
      | some statement => simp

theorem analyze_requestedFrom (config : Config) (text : String) (caret : Nat) :
    RequestedFrom config text caret (config.analyze text caret) := by
  constructor
  case none_iff => exact ofAnalysis?_eq_none_iff config text caret
  case token_rule =>
    intro token htoken
    exact activeToken?_ruleFor? htoken
  case format_rule =>
    intro kind hkind
    exact Config.ruleFor?_of_mem (config.wellFormed.format_subset kind hkind)
  case on_token =>
    intro request hrequest token htoken
    rcases Request.ofAnalysis?_on_token htoken hrequest with ⟨hrule, hreplace, _⟩
    have hquery := Request.ofAnalysis?_query htoken hrequest
    have hfield := activeToken?_onField htoken
    rw [Focus.onField, Bool.and_eq_true] at hfield
    have hscanned := activeToken?_scanned htoken
    have hpartition := Scan.partition_tokens text config.rules config.defaultKind
    have hstart := hpartition.start_boundary (Matching.unflag token) hscanned
    have hstop := hpartition.stop_boundary (Matching.unflag token) hscanned
    have hextract := hpartition.extract (Matching.unflag token) hscanned
    rw [hreplace, hquery]
    exact ⟨Config.onlyRule_of_ruleFor? hrule, rfl, hfield.1, hstart, hstop, hextract⟩
  case off_token =>
    intro request hrequest hnone
    rcases Request.ofAnalysis?_off_token hnone hrequest with ⟨prediction, hprediction, rfl⟩
    exact ⟨rfl, prediction, hprediction, rfl, rfl⟩
  case context =>
    intro request hrequest
    exact (Request.ofAnalysis?_rule_mem hrequest).2

theorem analyze_predicts_and_requests (config : Config) (text : String) (caret : Nat) :
    PredictedFrom config caret (config.analyze text caret) ∧
      RequestedFrom config text caret (config.analyze text caret) :=
  ⟨analyze_predictedFrom config text caret, analyze_requestedFrom config text caret⟩

end FieldGrammar
