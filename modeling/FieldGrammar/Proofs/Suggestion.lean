import FieldGrammar.Suggestion

/-!
# What a request asks for

A request is either for the field under the caret or for the field expected next.
Its rule is one of the configuration and has the name of that field, and its context
is the statement that the caret is in.
-/

namespace FieldGrammar

namespace Config

theorem mem_rules_of_ruleFor? {config : Config} {kind : String} {rule : Rule}
    (h : config.ruleFor? kind = some rule) : rule ∈ config.rules ∧ rule.name = kind := by
  unfold ruleFor? at h
  have hname := List.find?_some h
  exact ⟨List.mem_of_find?_eq_some h, beq_iff_eq.mp hname⟩

end Config

theorem analyze_prediction {config : Config} {text : String} {caret : Nat}
    {prediction : Prediction} (h : (config.analyze text caret).prediction = some prediction) :
    config.expectedAt?
        (((config.analyze text caret).activeStatement?.map Statement.fieldCount).getD 0) =
          some prediction.kind ∧
      config.ruleFor? prediction.kind = some prediction.rule ∧
        prediction.span = Span.point caret := by
  simp only [Config.analyze, Prediction.next?, Option.bind_eq_bind, Option.bind_eq_some_iff] at h
  rcases h with ⟨kind, hkind, rule, hrule, heq⟩
  cases heq
  exact ⟨hkind, hrule, rfl⟩

namespace Request

theorem ofAnalysis?_on_token {config : Config} {analysis : Analysis} {request : Request}
    {token : Token} (htoken : analysis.activeToken? = some token)
    (h : ofAnalysis? config analysis = some request) :
    config.ruleFor? token.kind = some request.rule ∧ request.replace = token.span ∧
      request.context = analysis.activeStatement? := by
  simp only [ofAnalysis?, htoken, ofToken?, Option.bind_eq_bind, Option.bind_eq_some_iff] at h
  rcases h with ⟨rule, hrule, heq⟩
  cases heq
  exact ⟨hrule, rfl, rfl⟩

theorem ofAnalysis?_query {config : Config} {analysis : Analysis} {request : Request}
    {token : Token} (htoken : analysis.activeToken? = some token)
    (h : ofAnalysis? config analysis = some request) : request.query = token.text := by
  simp only [ofAnalysis?, htoken, ofToken?, Option.bind_eq_bind, Option.bind_eq_some_iff] at h
  rcases h with ⟨rule, _, heq⟩
  cases heq
  rfl

theorem ofAnalysis?_off_token {config : Config} {analysis : Analysis} {request : Request}
    (hnone : analysis.activeToken? = none) (h : ofAnalysis? config analysis = some request) :
    exists prediction, analysis.prediction = some prediction ∧
      request = ofPrediction analysis.activeStatement? prediction := by
  simp only [ofAnalysis?, hnone, Option.map_eq_some_iff] at h
  rcases h with ⟨prediction, hprediction, heq⟩
  exact ⟨prediction, hprediction, heq.symm⟩

/-- In both cases the rule is one of the configuration. -/
theorem ofAnalysis?_rule_mem {config : Config} {text : String} {caret : Nat} {request : Request}
    (h : ofAnalysis? config (config.analyze text caret) = some request) :
    request.rule ∈ config.rules ∧
      request.context = (config.analyze text caret).activeStatement? := by
  cases hactive : (config.analyze text caret).activeToken? with
  | some token =>
      rcases ofAnalysis?_on_token hactive h with ⟨hrule, _, hcontext⟩
      exact ⟨(Config.mem_rules_of_ruleFor? hrule).1, hcontext⟩
  | none =>
      rcases ofAnalysis?_off_token hactive h with ⟨prediction, hprediction, rfl⟩
      have hrule := (analyze_prediction hprediction).2.1
      exact ⟨(Config.mem_rules_of_ruleFor? hrule).1, rfl⟩

end Request

theorem mem_of_activeStatement? {analysis : Analysis} {statement : Statement}
    (h : analysis.activeStatement? = some statement) : statement ∈ analysis.statements := by
  simp only [Analysis.activeStatement?, Analysis.statementAt?, Option.bind_eq_bind,
    Option.bind_eq_some_iff] at h
  rcases h with ⟨focus, _, hstatement⟩
  exact List.mem_of_getElem? hstatement

theorem mem_of_mem_paginate {values : List String} {page pageSize : Nat} {value : String}
    (h : value ∈ paginate values page pageSize) : value ∈ values := by
  unfold paginate at h
  split at h
  · exact h
  · exact List.mem_of_mem_drop (List.mem_of_mem_take h)

end FieldGrammar
