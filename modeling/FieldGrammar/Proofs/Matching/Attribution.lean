import FieldGrammar.Builtin
import FieldGrammar.Proofs.Matching.Chunks

/-!
# Fields, flags and errors of a statement

The grouping keeps a count of the fields beside the statement.  What it writes
into the statement on the way (flags, the error, whether fields are missing) is
what can be told from the tokens of the finished statement alone.
-/

namespace FieldGrammar
namespace Matching

/-- The number of fields among the tokens. -/
def fieldsIn (tokens : List Token) : Nat :=
  (tokens.filter Token.isField).length

/-- The kind that the format expects after the tokens. -/
def expectedAfter? (config : Config) (tokens : List Token) : Option String :=
  config.expectedAt? (fieldsIn tokens)

@[simp] theorem fieldsIn_nil : fieldsIn [] = 0 := rfl

theorem fieldsIn_concat_field {tokens : List Token} {token : Token} (h : token.isField = true) :
    fieldsIn (tokens ++ [token]) = fieldsIn tokens + 1 := by
  simp [fieldsIn, h]

theorem fieldsIn_concat_other {tokens : List Token} {token : Token}
    (h : token.isField = false) : fieldsIn (tokens ++ [token]) = fieldsIn tokens := by
  simp [fieldsIn, h]

/-!
# Well-formed statements
-/

/-- A flag is set exactly on a token that is not of the kind expected at its place. -/
structure WellFlagged (config : Config) (before : List Token) (token : Token) : Prop where
  expected : exists expected, expectedAfter? config before = some expected
  whitespace : token.isWhitespace = true -> token.invalid = false
  invalid_iff : token.isWhitespace = false ->
    (token.invalid = true <-> expectedAfter? config before ≠ some token.kind)

/-- The error belongs to the last token that is flagged. -/
structure ErrorOf (config : Config) (tokens : List Token) (error : Option Mismatch) : Prop where
  none_iff : error = none <-> forall token, token ∈ tokens -> token.invalid = false
  of_some : forall mismatch, error = some mismatch ->
    exists before token after, tokens = before ++ token :: after ∧ token.invalid = true ∧
      (forall other, other ∈ after -> other.invalid = false) ∧
      expectedAfter? config before = some mismatch.expected ∧
      mismatch.found = token.kind ∧ mismatch.span = token.span

structure WellFormed (config : Config) (statement : Statement) : Prop where
  field_kinds : statement.fields.map Token.kind = config.format.take statement.fieldCount
  fieldCount_le : statement.fieldCount ≤ config.fieldCount
  incomplete_iff : statement.incomplete = true <-> statement.fieldCount < config.fieldCount
  last_field : statement.incomplete = false ->
    exists before last, statement.tokens = before ++ [last] ∧ last.isField = true ∧
      fieldsIn before + 1 = config.fieldCount
  flags : forall before token after, statement.tokens = before ++ token :: after ->
    WellFlagged config before token
  error : ErrorOf config statement.tokens statement.error

/-!
# One more token

How each part of the description goes on when a token is added at the end.
-/

theorem wellFlagged_concat {config : Config} {tokens : List Token} {token : Token}
    (hold : forall before other after, tokens = before ++ other :: after ->
      WellFlagged config before other)
    (hnew : WellFlagged config tokens token) :
    forall before other after, tokens ++ [token] = before ++ other :: after ->
      WellFlagged config before other := by
  intro before other after hsplit
  rcases split_concat hsplit with ⟨rfl, rfl, _⟩ | ⟨mid, _, hmid⟩
  · exact hnew
  · exact hold before other mid hmid

theorem errorOf_nil (config : Config) : ErrorOf config [] none := by
  constructor
  · simp
  · intro mismatch h
    cases h

theorem errorOf_concat_valid {config : Config} {tokens : List Token} {error : Option Mismatch}
    {token : Token} (h : ErrorOf config tokens error) (hvalid : token.invalid = false) :
    ErrorOf config (tokens ++ [token]) error := by
  constructor
  · rw [h.none_iff]
    simp [or_imp, forall_and, hvalid]
  · intro mismatch hsome
    rcases h.of_some mismatch hsome with ⟨before, last, after, hsplit, hlast, hafter, hmismatch⟩
    refine ⟨before, last, after ++ [token], ?_, hlast, ?_, hmismatch⟩
    · rw [hsplit, List.append_assoc]
      rfl
    · intro other hother
      rcases List.mem_append.mp hother with hold | hnew
      · exact hafter other hold
      · rw [List.mem_singleton.mp hnew]
        exact hvalid

theorem errorOf_concat_invalid {config : Config} {tokens : List Token} {token : Token}
    {expected : String} (hinvalid : token.invalid = true)
    (hexpected : expectedAfter? config tokens = some expected) :
    ErrorOf config (tokens ++ [token])
      (some { expected := expected, found := token.kind, span := token.span }) := by
  constructor
  · constructor
    · intro hnone
      cases hnone
    · intro hall
      have hclean := hall token (by simp)
      rw [hinvalid] at hclean
      cases hclean
  · intro mismatch hsome
    cases hsome
    refine ⟨tokens, token, [], rfl, hinvalid, ?_, hexpected, rfl, rfl⟩
    intro other hother
    cases hother

/-!
# The invariant of filling
-/

/-- The running count agrees with the tokens, and so does all that is derived from it. -/
structure Open.Invariant (config : Config) (current : Open) : Prop where
  filled_eq : fieldsIn current.statement.tokens = current.filled
  filled_le : current.filled ≤ config.fieldCount
  field_kinds : current.statement.fields.map Token.kind = config.format.take current.filled
  incomplete_eq : current.statement.incomplete = decide (current.filled < config.fieldCount)
  last_field : current.filled = config.fieldCount ->
    exists before last, current.statement.tokens = before ++ [last] ∧ last.isField = true ∧
      fieldsIn before + 1 = config.fieldCount
  flags : forall before token after, current.statement.tokens = before ++ token :: after ->
    WellFlagged config before token
  error : ErrorOf config current.statement.tokens current.statement.error

theorem start_invariant (config : Config) : Open.start.Invariant config where
  filled_eq := rfl
  filled_le := Nat.zero_le _
  field_kinds := rfl
  incomplete_eq := by
    have hpos := fieldCount_pos config
    exact (decide_eq_true hpos).symm
  last_field := by
    intro hfull
    have hpos := fieldCount_pos config
    rw [← hfull] at hpos
    cases hpos
  flags := by
    intro before token after hsplit
    cases before <;> cases hsplit
  error := errorOf_nil config

theorem append_fields_field {config : Config} {current : Open} {token : Token}
    (h : token.isField = true) (error : Option Mismatch) (filled : Nat) :
    (current.append config token error filled).statement.fields =
      current.statement.fields ++ [token] := by
  simp [Open.append, Statement.fields, h]

theorem append_fields_other {config : Config} {current : Open} {token : Token}
    (h : token.isField = false) (error : Option Mismatch) (filled : Nat) :
    (current.append config token error filled).statement.fields =
      current.statement.fields := by
  simp [Open.append, Statement.fields, h]

/-- A token that is no field keeps the count, and the statement stays open. -/
theorem append_other_invariant {config : Config} {current : Open} {token : Token}
    {error : Option Mismatch} (h : current.Invariant config)
    (hopen : current.filled < config.fieldCount) (hfield : token.isField = false)
    (hflags : WellFlagged config current.statement.tokens token)
    (herror : ErrorOf config (current.statement.tokens ++ [token]) error) :
    (current.append config token error current.filled).Invariant config where
  filled_eq := (fieldsIn_concat_other hfield).trans h.filled_eq
  filled_le := h.filled_le
  field_kinds := by
    rw [append_fields_other hfield]
    exact h.field_kinds
  incomplete_eq := rfl
  last_field := fun hfull => absurd hfull (Nat.ne_of_lt hopen)
  flags := wellFlagged_concat h.flags hflags
  error := herror

theorem append_field_invariant {config : Config} {current : Open} {token : Token}
    (h : current.Invariant config) (hopen : current.filled < config.fieldCount)
    (hfield : token.isField = true) (hvalid : token.invalid = false)
    (hexpected : config.expectedAt? current.filled = some token.kind)
    (hflags : WellFlagged config current.statement.tokens token) :
    (current.append config token current.statement.error (current.filled + 1)).Invariant
      config where
  filled_eq := by
    rw [← h.filled_eq]
    exact fieldsIn_concat_field hfield
  filled_le := hopen
  field_kinds := by
    show _ = config.format.take (current.filled + 1)
    rw [append_fields_field hfield, List.map_append, h.field_kinds,
      take_succ_of_expectedAt? hexpected]
    rfl
  incomplete_eq := rfl
  last_field := by
    intro hfull
    refine ⟨current.statement.tokens, token, rfl, hfield, ?_⟩
    rw [h.filled_eq]
    exact hfull
  flags := wellFlagged_concat h.flags hflags
  error := errorOf_concat_valid h.error hvalid

theorem step_invariant {config : Config} {current next : Open} {token : Token}
    (h : current.Invariant config) (hopen : current.filled < config.fieldCount)
    (hvalid : token.invalid = false) (hstep : Open.Step config current token next) :
    next.Invariant config := by
  have hafter : expectedAfter? config current.statement.tokens =
      config.expectedAt? current.filled := by
    rw [expectedAfter?, h.filled_eq]
  cases hstep with
  | blank hblank =>
      apply append_other_invariant h hopen
      · simp [Token.isField, hblank]
      · constructor
        · rw [hafter]
          exact expectedAt?_of_lt hopen
        · intro _
          exact hvalid
        · intro hsolid
          rw [hblank] at hsolid
          cases hsolid
      · exact errorOf_concat_valid h.error hvalid
  | field hsolid hexpected =>
      apply append_field_invariant h hopen _ hvalid hexpected
      · constructor
        · exact ⟨token.kind, hafter.trans hexpected⟩
        · intro _
          exact hvalid
        · intro _
          simp [hvalid, hafter, hexpected]
      · simp [Token.isField, hsolid, hvalid]
  | mismatch hsolid hexpected hkind =>
      rename_i expected
      apply append_other_invariant h hopen
      · simp [Token.isField]
      · constructor
        · exact ⟨expected, hafter.trans hexpected⟩
        · intro hblank
          exact absurd (hsolid.symm.trans hblank) (by simp)
        · intro _
          simp [hafter, hexpected, Ne.symm hkind]
      · exact errorOf_concat_invalid rfl (hafter.trans hexpected)

theorem fill_invariant {config : Config} {tokens : List Token} (hfits : Fits config tokens)
    (hvalid : forall token, token ∈ tokens -> token.invalid = false) :
    (fill config tokens).Invariant config := by
  induction tokens using List.reverseRecOn with
  | nil => exact start_invariant config
  | append_singleton others token ih =>
      rcases fits_concat.mp hfits with ⟨hothers, hopen⟩
      rw [fill_concat]
      apply step_invariant (ih hothers ?_) hopen ?_ (push_step token hopen)
      · intro other hother
        exact hvalid other (List.mem_append_left _ hother)
      · exact hvalid token (by simp)

theorem wellFormed_of_invariant {config : Config} {current : Open}
    (h : current.Invariant config) : WellFormed config current.statement := by
  have hcount : current.statement.fieldCount = current.filled := h.filled_eq
  constructor
  · rw [hcount]
    exact h.field_kinds
  · rw [hcount]
    exact h.filled_le
  · rw [hcount, h.incomplete_eq, decide_eq_true_iff]
  · intro hcomplete
    rw [h.incomplete_eq, decide_eq_false_iff_not] at hcomplete
    exact h.last_field (Nat.le_antisymm h.filled_le (Nat.le_of_not_lt hcomplete))
  · exact h.flags
  · exact h.error

/-!
# All statements
-/

theorem mem_statements {config : Config} {tokens : List Token} {statement : Statement} :
    statement ∈ statements config tokens <->
      exists chunk, chunk ∈ chunks config tokens ∧
        (fill config chunk).statement = statement := by
  rw [statements_eq_map_chunks, List.mem_map]

theorem statement_tokens_ne_nil {config : Config} {tokens : List Token} {statement : Statement}
    (h : statement ∈ statements config tokens) : statement.tokens ≠ [] := by
  rcases mem_statements.mp h with ⟨chunk, hchunk, rfl⟩
  rw [← List.length_pos_iff, fill_tokens_length, List.length_pos_iff]
  exact mem_chunks_ne_nil hchunk

theorem chunks_valid {config : Config} {tokens chunk : List Token}
    (hvalid : forall token, token ∈ tokens -> token.invalid = false)
    (h : chunk ∈ chunks config tokens) :
    forall token, token ∈ chunk -> token.invalid = false := by
  intro token htoken
  apply hvalid token
  rw [← chunks_flatten config tokens]
  exact List.mem_flatten.mpr ⟨chunk, h, htoken⟩

theorem chunks_invariant {config : Config} {tokens chunk : List Token}
    (hvalid : forall token, token ∈ tokens -> token.invalid = false)
    (h : chunk ∈ chunks config tokens) : (fill config chunk).Invariant config :=
  fill_invariant (chunks_fits h) (chunks_valid hvalid h)

theorem statements_wellFormed {config : Config} {tokens : List Token}
    (hvalid : forall token, token ∈ tokens -> token.invalid = false) {statement : Statement}
    (h : statement ∈ statements config tokens) : WellFormed config statement := by
  rcases mem_statements.mp h with ⟨chunk, hchunk, rfl⟩
  exact wellFormed_of_invariant (chunks_invariant hvalid hchunk)

theorem statements_dropLast_complete {config : Config} {tokens : List Token}
    (hvalid : forall token, token ∈ tokens -> token.invalid = false) {statement : Statement}
    (h : statement ∈ (statements config tokens).dropLast) : statement.incomplete = false := by
  rw [statements_eq_map_chunks, ← List.map_dropLast, List.mem_map] at h
  rcases h with ⟨chunk, hchunk, rfl⟩
  have hinvariant := chunks_invariant hvalid (List.dropLast_subset _ hchunk)
  rw [hinvariant.incomplete_eq, chunks_dropLast_full hchunk]
  simp

/-!
# The expected kind is always there

The grouping once more, giving up where a token has to be compared and the format
expects nothing.
-/

def Open.push? (config : Config) (current : Open) (token : Token) : Option Open :=
  if token.isWhitespace then
    some (current.append config token current.statement.error current.filled)
  else do
    let expected ← config.expectedAt? current.filled
    if token.kind = expected then
      some (current.append config token current.statement.error (current.filled + 1))
    else
      some
        (current.append config { token with invalid := true }
          (some { expected := expected, found := token.kind, span := token.span })
          current.filled)

def statementsFrom? (config : Config) : Open -> List Token -> Option (List Statement)
  | current, [] => some [current.statement]
  | current, token :: rest =>
      if current.filled = config.fieldCount then do
        let next ← Open.start.push? config token
        let later ← statementsFrom? config next rest
        some (current.statement :: later)
      else do
        let next ← current.push? config token
        statementsFrom? config next rest

def statements? (config : Config) : List Token -> Option (List Statement)
  | [] => some []
  | token :: rest => do
      let first ← Open.start.push? config token
      statementsFrom? config first rest

theorem push?_eq_push {config : Config} {current : Open} (token : Token)
    (hopen : current.filled < config.fieldCount) :
    current.push? config token = some (current.push config token) := by
  rcases expectedAt?_of_lt hopen with ⟨expected, hexpected⟩
  unfold Open.push? Open.push
  rw [hexpected, Option.getD_some]
  by_cases hblank : token.isWhitespace = true
  · rw [if_pos hblank, if_pos hblank]
  · rw [if_neg hblank, if_neg hblank]
    by_cases hkind : token.kind = expected
    · simp [hkind]
    · simp [hkind]

theorem statementsFrom?_eq {config : Config} {current : Open}
    (h : current.filled ≤ config.fieldCount) (rest : List Token) :
    statementsFrom? config current rest = some (statementsFrom config current rest) := by
  induction rest generalizing current with
  | nil => rfl
  | cons token rest ih =>
      rw [statementsFrom?, statementsFrom]
      by_cases hfull : current.filled = config.fieldCount
      · have hstart : Open.start.filled < config.fieldCount := fieldCount_pos config
        have hnext := step_filled_le (push_step token hstart) hstart
        rw [if_pos hfull, if_pos hfull, push?_eq_push token hstart]
        simp [ih hnext]
      · have hopen : current.filled < config.fieldCount := Nat.lt_of_le_of_ne h hfull
        have hnext := step_filled_le (push_step token hopen) hopen
        rw [if_neg hfull, if_neg hfull, push?_eq_push token hopen]
        simp [ih hnext]

theorem statements?_eq (config : Config) (tokens : List Token) :
    statements? config tokens = some (statements config tokens) := by
  cases tokens with
  | nil => rfl
  | cons token rest =>
      have hstart : Open.start.filled < config.fieldCount := fieldCount_pos config
      have hnext := step_filled_le (push_step token hstart) hstart
      rw [statements?, statements, push?_eq_push token hstart]
      exact statementsFrom?_eq hnext rest

theorem statements_wellFormed_and_attributed (config : Config) (tokens : List Token)
    (hvalid : forall token, token ∈ tokens -> token.invalid = false) :
    (forall statement, statement ∈ statements config tokens -> WellFormed config statement) ∧
      (forall statement, statement ∈ (statements config tokens).dropLast ->
        statement.incomplete = false) ∧
      statements? config tokens = some (statements config tokens) := by
  refine ⟨?_, ?_, statements?_eq config tokens⟩
  · intro statement hstatement
    exact statements_wellFormed hvalid hstatement
  · intro statement hstatement
    exact statements_dropLast_complete hvalid hstatement

/-- The tokens of the text `1 foo = 2`, whose first value stands where a name is expected. -/
def strayValueTokens : List Token :=
  [Token.placed ['1'] Builtin.valueKind 0, Token.placed [' '] Token.whitespaceKind 1,
   Token.placed ['f', 'o', 'o'] Builtin.identifierKind 2, Token.placed [' '] Token.whitespaceKind 5,
   Token.placed ['='] Builtin.comparisonKind 6, Token.placed [' '] Token.whitespaceKind 7,
   Token.placed ['2'] Builtin.valueKind 8]

theorem strayValueTokens_attributed :
    exists statement, statement ∈ statements Builtin.config strayValueTokens ∧
      statement.error =
        some { expected := Builtin.identifierKind, found := Builtin.valueKind,
               span := { start := 0, stop := 1 } } ∧
      WellFormed Builtin.config statement := by
  have hall := statements_wellFormed_and_attributed Builtin.config strayValueTokens (by decide)
  cases hstatements : statements Builtin.config strayValueTokens with
  | nil => exact absurd hstatements (by decide)
  | cons statement rest =>
      have herror : (statements Builtin.config strayValueTokens).head?.bind Statement.error =
          some { expected := Builtin.identifierKind, found := Builtin.valueKind,
                 span := { start := 0, stop := 1 } } := by decide
      rw [hstatements] at herror hall
      exact ⟨statement, List.mem_cons_self, herror, hall.1 statement List.mem_cons_self⟩

end Matching
end FieldGrammar
