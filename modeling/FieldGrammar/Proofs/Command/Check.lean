import Mathlib.Data.List.Forall2
import FieldGrammar.Command.Run
import FieldGrammar.Proofs.Prediction
import FieldGrammar.Proofs.Text.Boundary

/-!
# Checking a text

The reports of a check come statement by statement, while the exit code and the
printed counts are taken from the statements as a whole.  That they fit together
follows from the statements of a text: only the last one can lack fields, and each
report stands at the start of a token of its own statement.
-/

namespace FieldGrammar
namespace Command

/-!
# The report of one statement
-/

def Report.ofMismatch (mismatch : Mismatch) : Report :=
  { level := .error
    offset := mismatch.span.start
    message := "expected " ++ mismatch.expected ++ " but encountered " ++ mismatch.found
    label := "this is " ++ mismatch.found }

def Report.ofMissing (span : Span) (kind : String) : Report :=
  { level := .warning
    offset := span.start
    message := "incomplete statement"
    label := "expected " ++ kind ++ " next" }

/-- The report of the error of a statement, at a token that does not fit its place. -/
structure ErrorReport (statement : Statement) (report : Report) : Prop where
  of_mismatch : exists mismatch, statement.error = some mismatch ∧
    report = Report.ofMismatch mismatch
  at_token : exists token, token ∈ statement.tokens ∧ token.invalid = true ∧
    report.offset = token.span.start

/-- The report of a statement that has no error and lacks a field, at its start. -/
structure WarningReport (config : Config) (statement : Statement) (report : Report) : Prop where
  no_error : statement.error = none
  incomplete : statement.incomplete = true
  of_missing : exists span kind rule, statement.span? = some span ∧
    config.format[statement.fieldCount]? = some kind ∧ config.ruleFor? kind = some rule ∧
    report = Report.ofMissing span kind

theorem ErrorReport.level_eq {statement : Statement} {report : Report}
    (h : ErrorReport statement report) : report.level = .error := by
  rcases h.of_mismatch with ⟨mismatch, _, rfl⟩
  rfl

theorem WarningReport.level_eq {config : Config} {statement : Statement} {report : Report}
    (h : WarningReport config statement report) : report.level = .warning := by
  rcases h.of_missing with ⟨span, kind, rule, _, _, _, rfl⟩
  rfl

section Statement

variable {config : Config} {text : String} {statement : Statement}

theorem parse_wellFormed (h : statement ∈ config.parse text) :
    Matching.WellFormed config statement :=
  Matching.statements_wellFormed (tokens_unflagged config text) h

theorem parse_span? (h : statement ∈ config.parse text) :
    exists start stop, Tiles start statement.tokens stop ∧
      statement.span? = some { start := start, stop := stop } := by
  rcases List.append_of_mem h with ⟨before, after, hsplit⟩
  rcases tiles_of_split hsplit with ⟨start, stop, _, htiles, _, hspan⟩
  exact ⟨start, stop, htiles, hspan⟩

/-- A statement of a text has one report if it has an error or lacks fields, and else none. -/
theorem ofStatement?_cases (h : statement ∈ config.parse text) :
    (exists report, Report.ofStatement? config statement = some report ∧
        ErrorReport statement report) ∨
      (exists report, Report.ofStatement? config statement = some report ∧
        WarningReport config statement report) ∨
      Report.ofStatement? config statement = none ∧ statement.error = none ∧
        statement.incomplete = false := by
  have hformed := parse_wellFormed h
  rcases parse_span? h with ⟨start, stop, _, hspan⟩
  cases herror : statement.error with
  | some mismatch =>
      rcases hformed.error.of_some mismatch herror with
        ⟨before, token, after, hsplit, hinvalid, _, _, _, htoken⟩
      have hmem : token ∈ statement.tokens := by
        rw [hsplit]
        exact List.mem_append_right before List.mem_cons_self
      have hreport : Report.ofStatement? config statement = some (.ofMismatch mismatch) := by
        simp [Report.ofStatement?, hspan, herror, Report.ofMismatch, Mismatch.message]
      exact Or.inl ⟨_, hreport, ⟨mismatch, herror, rfl⟩,
        token, hmem, hinvalid, congrArg Span.start htoken⟩
  | none =>
      cases hincomplete : statement.incomplete with
      | false =>
          have hnone : Report.ofStatement? config statement = none := by
            simp [Report.ofStatement?, hspan, herror, hincomplete]
          exact Or.inr (Or.inr ⟨hnone, rfl, rfl⟩)
      | true =>
          rcases Matching.expectedAt?_of_lt (hformed.incomplete_iff.mp hincomplete) with
            ⟨kind, hkind⟩
          rcases Config.ruleFor?_of_expectedAt? hkind with ⟨rule, hrule⟩
          have hreport : Report.ofStatement? config statement =
              some (.ofMissing { start := start, stop := stop } kind) := by
            simp [Report.ofStatement?, hspan, herror, hincomplete, hkind, Report.ofMissing]
          exact Or.inr (Or.inl ⟨_, hreport, herror, hincomplete, _, kind, rule, hspan, hkind, hrule,
            rfl⟩)

theorem report_cases (h : statement ∈ config.parse text) {report : Report}
    (hreport : Report.ofStatement? config statement = some report) :
    ErrorReport statement report ∨ WarningReport config statement report := by
  rcases ofStatement?_cases h with
    ⟨other, hother, herror⟩ | ⟨other, hother, hwarning⟩ | ⟨hnone, _⟩
  · rw [hother, Option.some.injEq] at hreport
    exact Or.inl (hreport ▸ herror)
  · rw [hother, Option.some.injEq] at hreport
    exact Or.inr (hreport ▸ hwarning)
  · rw [hnone] at hreport
    cases hreport

theorem not_hasError (h : statement.error = none) : ¬ statement.hasError = true := by
  rw [Statement.hasError, h]
  exact Bool.false_ne_true

theorem hasError_iff (h : statement ∈ config.parse text) :
    statement.hasError = true <->
      exists token, token ∈ statement.tokens ∧ token.invalid = true := by
  have hnone := (parse_wellFormed h).error.none_iff
  rw [Statement.hasError, Option.isSome_iff_ne_none, Ne, hnone]
  simp

/-- A statement starts where its first token does. -/
theorem span?_start (h : statement ∈ config.parse text) {span : Span}
    (hspan : statement.span? = some span) :
    exists token, token ∈ statement.tokens ∧ span.start = token.span.start := by
  rcases parse_span? h with ⟨start, stop, htiles, hsome⟩
  rw [hsome, Option.some.injEq] at hspan
  subst hspan
  cases htokens : statement.tokens with
  | nil => exact absurd htokens (Matching.statement_tokens_ne_nil h)
  | cons first rest =>
      rw [htokens] at htiles
      exact ⟨first, List.mem_cons_self, htiles.1.symm⟩

theorem report_at_token (h : statement ∈ config.parse text) {report : Report}
    (hreport : Report.ofStatement? config statement = some report) :
    exists token, token ∈ statement.tokens ∧ report.offset = token.span.start := by
  rcases report_cases h hreport with herror | hwarning
  · rcases herror.at_token with ⟨token, hmem, _, hoffset⟩
    exact ⟨token, hmem, hoffset⟩
  · rcases hwarning.of_missing with ⟨span, kind, rule, hspan, _, _, rfl⟩
    exact span?_start h hspan

end Statement

/-!
# The reports of all statements
-/

def Report.isError (report : Report) : Bool :=
  report.level = .error

/-- Statements with an error and reports of errors come in pairs, in the same order. -/
theorem errors_reported {config : Config} {text : String} {statements : List Statement}
    (h : forall statement, statement ∈ statements -> statement ∈ config.parse text) :
    List.Forall₂ ErrorReport (statements.filter Statement.hasError)
      ((Report.ofStatements config statements).filter Report.isError) := by
  induction statements with
  | nil => exact .nil
  | cons statement rest ih =>
      rw [List.forall_mem_cons] at h
      rw [Report.ofStatements, List.filterMap_cons]
      rcases ofStatement?_cases h.1 with
        ⟨report, hreport, herror⟩ | ⟨report, hreport, hwarning⟩ | ⟨hnone, hclean, _⟩
      · rcases herror.of_mismatch with ⟨mismatch, hmismatch, _⟩
        have hfaulty : statement.hasError = true := by
          rw [Statement.hasError, hmismatch, Option.isSome_some]
        have hlevel : report.isError = true := decide_eq_true herror.level_eq
        rw [hreport, List.filter_cons_of_pos hfaulty, List.filter_cons_of_pos hlevel]
        exact .cons herror (ih h.2)
      · have hlevel : ¬ report.isError = true := by
          rw [Report.isError, hwarning.level_eq]
          exact Bool.false_ne_true
        rw [hreport, List.filter_cons_of_neg (not_hasError hwarning.no_error),
          List.filter_cons_of_neg hlevel]
        exact ih h.2
      · rw [hnone, List.filter_cons_of_neg (not_hasError hclean)]
        exact ih h.2

theorem level_of_complete {config : Config} {text : String} {statements : List Statement}
    (h : forall statement, statement ∈ statements -> statement ∈ config.parse text)
    (hcomplete : forall statement, statement ∈ statements -> statement.incomplete = false) :
    forall report, report ∈ Report.ofStatements config statements -> report.level = .error := by
  intro report hmem
  rcases List.mem_filterMap.mp hmem with ⟨statement, hstatement, hreport⟩
  rcases report_cases (h statement hstatement) hreport with herror | hwarning
  · exact herror.level_eq
  · have hincomplete := hwarning.incomplete
    rw [hcomplete statement hstatement] at hincomplete
    cases hincomplete

theorem ofStatements_concat (config : Config) (initial : List Statement) (last : Statement) :
    Report.ofStatements config (initial ++ [last]) =
      Report.ofStatements config initial ++ (Report.ofStatement? config last).toList := by
  rw [Report.ofStatements, List.filterMap_append, Report.ofStatements]
  cases hreport : Report.ofStatement? config last with
  | none => simp [hreport]
  | some report => simp [hreport]

/-- Only the last statement of a text is ever warned of. -/
theorem warning_is_last {config : Config} {text : String} {report : Report}
    (hmem : report ∈ Report.ofStatements config (config.parse text))
    (hlevel : report.level = .warning) :
    exists others initial last,
      Report.ofStatements config (config.parse text) = others ++ [report] ∧
      (forall other, other ∈ others -> other.level = .error) ∧
      config.parse text = initial ++ [last] ∧ WarningReport config last report := by
  rcases List.eq_nil_or_concat (config.parse text) with hnil | ⟨initial, last, hlast⟩
  · rw [hnil] at hmem
    cases hmem
  · rw [List.concat_eq_append] at hlast
    have hinitial : forall statement, statement ∈ initial -> statement ∈ config.parse text := by
      intro statement hstatement
      rw [hlast]
      exact List.mem_append_left [last] hstatement
    have hcomplete : forall statement, statement ∈ initial -> statement.incomplete = false := by
      intro statement hstatement
      apply Matching.statements_dropLast_complete (tokens_unflagged config text)
      show statement ∈ (config.parse text).dropLast
      rw [hlast, List.dropLast_concat]
      exact hstatement
    have herrors := level_of_complete hinitial hcomplete
    have hlastMem : last ∈ config.parse text := by
      rw [hlast]
      exact List.mem_append_right initial List.mem_cons_self
    rw [hlast, ofStatements_concat] at hmem ⊢
    rcases List.mem_append.mp hmem with hearlier | hhere
    · rw [herrors report hearlier] at hlevel
      cases hlevel
    · rw [Option.mem_toList] at hhere
      rcases report_cases hlastMem hhere with herror | hwarning
      · rw [herror.level_eq] at hlevel
        cases hlevel
      · refine ⟨_, initial, last, ?_, herrors, rfl, hwarning⟩
        rw [hhere, Option.toList_some]

theorem warned_of_incomplete {config : Config} {text : String} {initial : List Statement}
    {last : Statement} (hlast : config.parse text = initial ++ [last])
    (herror : last.error = none) (hincomplete : last.incomplete = true) :
    exists report, report ∈ Report.ofStatements config (config.parse text) ∧
      report.level = .warning := by
  have hmem : last ∈ config.parse text := by
    rw [hlast]
    exact List.mem_append_right initial List.mem_cons_self
  rcases ofStatement?_cases hmem with
    ⟨report, _, hfaulty⟩ | ⟨report, hreport, hwarning⟩ | ⟨_, _, hcomplete⟩
  · rcases hfaulty.of_mismatch with ⟨mismatch, hmismatch, _⟩
    rw [herror] at hmismatch
    cases hmismatch
  · exact ⟨report, List.mem_filterMap.mpr ⟨last, hmem, hreport⟩, hwarning.level_eq⟩
  · rw [hincomplete] at hcomplete
    cases hcomplete

theorem token_start_isBoundary {config : Config} {text : String} {token : Token}
    (h : token ∈ (config.parse text).flatMap Statement.tokens) :
    Text.IsBoundary text token.span.start := by
  have hscanned : Matching.unflag token ∈ config.tokens text := by
    rw [← parse_tokens_unflag]
    exact List.mem_map_of_mem h
  have hstart : Text.boundary token.span.start text.toList = token.span.start :=
    (Scan.partition_tokens text config.rules config.defaultKind).start_boundary
      (Matching.unflag token) hscanned
  have hboundary := (Text.boundary_isGreatest text token.span.start).1.1
  rw [hstart] at hboundary
  exact hboundary

theorem report_offset {config : Config} {text : String} {report : Report}
    (h : report ∈ Report.ofStatements config (config.parse text)) :
    Text.IsBoundary text report.offset ∧ report.offset < text.utf8ByteSize := by
  rcases List.mem_filterMap.mp h with ⟨statement, hstatement, hreport⟩
  rcases report_at_token hstatement hreport with ⟨token, htoken, hoffset⟩
  have hmem : token ∈ (config.parse text).flatMap Statement.tokens :=
    List.mem_flatMap.mpr ⟨statement, hstatement, htoken⟩
  have hbounds := tiles_mem (tiles_parse config text) hmem
  rw [hoffset]
  exact ⟨token_start_isBoundary hmem, Nat.lt_of_lt_of_le hbounds.2.1 hbounds.2.2⟩

/-- Reports stand at tokens of their statements, and these are in the order of the text. -/
theorem offsets_increase (config : Config) (text : String) :
    ((Report.ofStatements config (config.parse text)).map Report.offset).Pairwise (· < ·) := by
  have htokens := tiles_pairwise (tiles_parse config text)
  rw [List.pairwise_flatMap] at htokens
  rw [List.pairwise_map, Report.ofStatements, List.pairwise_filterMap]
  refine htokens.2.imp_of_mem ?_
  intro a b ha hb hbefore report hreport later hlater
  rcases report_at_token ha hreport with ⟨token, htoken, hoffset⟩
  rcases report_at_token hb hlater with ⟨other, hother, hoffset'⟩
  rw [hoffset, hoffset']
  exact hbefore token htoken other hother

/-!
# The outcome
-/

def Outcome.reported (outcome : Outcome) : List Report :=
  outcome.reports.map PlacedReport.report

theorem reported_placed (text : String) (reports : List Report) :
    (reports.map (Report.placed text)).map PlacedReport.report = reports := by
  rw [List.map_map]
  exact List.map_id reports

theorem runCheck_passed {config : Config} {text : String}
    (h : (config.parse text).countP Statement.hasError = 0) :
    runCheck config text =
      { exit := 0
        output := "✓ " ++ Nat.repr (config.parse text).length ++ " statements\n"
        reports := (Report.ofStatements config (config.parse text)).map (Report.placed text)
        errors := [] } := by
  rw [List.countP_eq_length_filter] at h
  exact if_pos h

theorem runCheck_failed {config : Config} {text : String}
    (h : (config.parse text).countP Statement.hasError ≠ 0) :
    runCheck config text =
      { exit := 1
        output := ""
        reports := (Report.ofStatements config (config.parse text)).map (Report.placed text)
        errors :=
          ["✗ " ++ Nat.repr ((config.parse text).countP Statement.hasError) ++ " of " ++
            Nat.repr (config.parse text).length ++ " statements have errors"] } := by
  rw [List.countP_eq_length_filter] at h ⊢
  exact if_neg h

theorem runCheck_exit_zero_iff {config : Config} {text : String} :
    (runCheck config text).exit = 0 <-> (config.parse text).countP Statement.hasError = 0 := by
  by_cases hclean : (config.parse text).countP Statement.hasError = 0
  · simp [runCheck_passed hclean, hclean]
  · simp [runCheck_failed hclean, hclean]

theorem runCheck_exit_one_iff {config : Config} {text : String} :
    (runCheck config text).exit = 1 <-> (config.parse text).countP Statement.hasError ≠ 0 := by
  by_cases hclean : (config.parse text).countP Statement.hasError = 0
  · simp [runCheck_passed hclean, hclean]
  · simp [runCheck_failed hclean, hclean]

theorem runCheck_reports (config : Config) (text : String) :
    (runCheck config text).reports =
      (Report.ofStatements config (config.parse text)).map (Report.placed text) := by
  by_cases hclean : (config.parse text).countP Statement.hasError = 0
  · rw [runCheck_passed hclean]
  · rw [runCheck_failed hclean]

theorem runCheck_reported (config : Config) (text : String) :
    (runCheck config text).reported = Report.ofStatements config (config.parse text) := by
  rw [Outcome.reported, runCheck_reports, reported_placed]

theorem no_errors_iff_valid (config : Config) (text : String) :
    (config.parse text).countP Statement.hasError = 0 <->
      forall token, token ∈ (config.parse text).flatMap Statement.tokens ->
        token.invalid = false := by
  rw [List.countP_eq_zero]
  constructor
  · intro hclean token hmem
    rcases List.mem_flatMap.mp hmem with ⟨statement, hstatement, htoken⟩
    rw [← Bool.not_eq_true]
    intro hinvalid
    exact hclean statement hstatement ((hasError_iff hstatement).mpr ⟨token, htoken, hinvalid⟩)
  · intro hvalid statement hstatement herror
    rcases (hasError_iff hstatement).mp herror with ⟨token, htoken, hinvalid⟩
    rw [hvalid token (List.mem_flatMap.mpr ⟨statement, hstatement, htoken⟩)] at hinvalid
    cases hinvalid

/-- What a check tells of the statements of a text, and where it tells it. -/
structure Checked (config : Config) (text : String) (outcome : Outcome) : Prop where
  exit_one_iff : outcome.exit = 1 <->
    exists token, token ∈ (config.parse text).flatMap Statement.tokens ∧ token.invalid = true
  exit_zero_iff : outcome.exit = 0 <->
    forall token, token ∈ (config.parse text).flatMap Statement.tokens -> token.invalid = false
  errors : List.Forall₂ ErrorReport ((config.parse text).filter Statement.hasError)
    (outcome.reported.filter Report.isError)
  passed : outcome.exit = 0 ->
    outcome.output = "✓ " ++ Nat.repr (config.parse text).length ++ " statements\n" ∧
      outcome.errors = []
  failed : outcome.exit = 1 ->
    outcome.output = "" ∧
      outcome.errors =
        ["✗ " ++ Nat.repr ((config.parse text).countP Statement.hasError) ++ " of " ++
          Nat.repr (config.parse text).length ++ " statements have errors"]
  warning : forall report, report ∈ outcome.reported -> report.level = .warning ->
    exists others initial last, outcome.reported = others ++ [report] ∧
      (forall other, other ∈ others -> other.level = .error) ∧
      config.parse text = initial ++ [last] ∧ WarningReport config last report
  warned : forall initial last, config.parse text = initial ++ [last] ->
    last.error = none -> last.incomplete = true ->
    exists report, report ∈ outcome.reported ∧ report.level = .warning
  offsets : forall report, report ∈ outcome.reported ->
    Text.IsBoundary text report.offset ∧ report.offset < text.utf8ByteSize
  increasing : (outcome.reported.map Report.offset).Pairwise (· < ·)
  places : forall placed, placed ∈ outcome.reports ->
    placed.place = Place.ofOffset text placed.report.offset

theorem runCheck_reports_in_place (config : Config) (text : String) :
    Checked config text (runCheck config text) := by
  have hreported := runCheck_reported config text
  constructor
  case exit_one_iff =>
    rw [runCheck_exit_one_iff, Ne, no_errors_iff_valid]
    simp only [not_forall, exists_prop, Bool.not_eq_false]
  case exit_zero_iff => rw [runCheck_exit_zero_iff, no_errors_iff_valid]
  case errors =>
    rw [hreported]
    exact errors_reported fun _ hmem => hmem
  case passed =>
    intro hexit
    rw [runCheck_passed (runCheck_exit_zero_iff.mp hexit)]
    exact ⟨rfl, rfl⟩
  case failed =>
    intro hexit
    rw [runCheck_failed (runCheck_exit_one_iff.mp hexit)]
    exact ⟨rfl, rfl⟩
  case warning =>
    rw [hreported]
    intro report hmem hlevel
    exact warning_is_last hmem hlevel
  case warned =>
    rw [hreported]
    intro initial last hlast hclean hincomplete
    exact warned_of_incomplete hlast hclean hincomplete
  case offsets =>
    rw [hreported]
    intro report hmem
    exact report_offset hmem
  case increasing =>
    rw [hreported]
    exact offsets_increase config text
  case places =>
    rw [runCheck_reports]
    intro placed hmem
    rcases List.mem_map.mp hmem with ⟨report, _, rfl⟩
    rfl

end Command
end FieldGrammar
