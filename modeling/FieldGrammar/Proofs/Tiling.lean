import FieldGrammar.Proofs.Matching.Attribution
import FieldGrammar.Proofs.Scan.Partition

/-!
# Statements tile the text

The tokens of all statements, one statement after the other, stand side by side
from the first byte of the text to its last.  Offsets therefore order the tokens,
and every offset in the text belongs to one of them.
-/

namespace FieldGrammar

/-- The tokens stand side by side from one offset to another, and none is empty. -/
def Tiles : Nat -> List Token -> Nat -> Prop
  | start, [], stop => start = stop
  | start, token :: rest, stop =>
      token.span.start = start ∧ start < token.span.stop ∧ Tiles token.span.stop rest stop

theorem tiles_append {start stop : Nat} {xs ys : List Token} :
    Tiles start (xs ++ ys) stop <-> exists mid, Tiles start xs mid ∧ Tiles mid ys stop := by
  induction xs generalizing start with
  | nil => simp [Tiles]
  | cons token rest ih => simp [Tiles, ih, and_assoc]

theorem tiles_le {start stop : Nat} {tokens : List Token} (h : Tiles start tokens stop) :
    start ≤ stop := by
  induction tokens generalizing start with
  | nil => exact Nat.le_of_eq h
  | cons token rest ih => exact Nat.le_trans (Nat.le_of_lt h.2.1) (ih h.2.2)

theorem tiles_stop_unique {start stop stop' : Nat} {tokens : List Token}
    (h : Tiles start tokens stop) (h' : Tiles start tokens stop') : stop = stop' := by
  induction tokens generalizing start with
  | nil => exact h.symm.trans h'
  | cons token rest ih => exact ih h.2.2 h'.2.2

theorem tiles_mem {start stop : Nat} {tokens : List Token} {token : Token}
    (h : Tiles start tokens stop) (hmem : token ∈ tokens) :
    start ≤ token.span.start ∧ token.span.start < token.span.stop ∧ token.span.stop ≤ stop := by
  induction tokens generalizing start with
  | nil => cases hmem
  | cons first rest ih =>
      rcases h with ⟨hstart, hlt, hrest⟩
      rcases List.mem_cons.mp hmem with rfl | hlater
      · exact ⟨Nat.le_of_eq hstart.symm, hstart ▸ hlt, tiles_le hrest⟩
      · rcases ih hrest hlater with ⟨hle, hinside, hstop⟩
        exact ⟨Nat.le_trans (Nat.le_of_lt hlt) hle, hinside, hstop⟩

/-- Of two tokens, the earlier one ends before the later one starts. -/
theorem tiles_ordered {start stop : Nat} {before after : List Token} {earlier token : Token}
    (h : Tiles start (before ++ token :: after) stop) (hmem : earlier ∈ before) :
    earlier.span.stop ≤ token.span.start := by
  rcases tiles_append.mp h with ⟨mid, hbefore, hstart, _⟩
  rw [hstart]
  exact (tiles_mem hbefore hmem).2.2

theorem tiles_pairwise {start stop : Nat} {tokens : List Token} (h : Tiles start tokens stop) :
    tokens.Pairwise fun a b => a.span.start < b.span.start := by
  induction tokens generalizing start with
  | nil => exact List.Pairwise.nil
  | cons token rest ih =>
      rcases h with ⟨rfl, hlt, hrest⟩
      refine List.Pairwise.cons ?_ (ih hrest)
      intro later hlater
      exact Nat.lt_of_lt_of_le hlt (tiles_mem hrest hlater).1

theorem tiles_cover {start stop offset : Nat} {tokens : List Token} (h : Tiles start tokens stop)
    (hstart : start < offset) (hstop : offset ≤ stop) :
    exists token, token ∈ tokens ∧ token.span.start < offset ∧ offset ≤ token.span.stop := by
  induction tokens generalizing start with
  | nil =>
      cases h
      exact absurd hstart (Nat.not_lt.mpr hstop)
  | cons token rest ih =>
      rcases h with ⟨rfl, _, hrest⟩
      rcases Nat.lt_or_ge token.span.stop offset with hlater | hhere
      · rcases ih hrest hlater with ⟨other, hmem, hother⟩
        exact ⟨other, List.mem_cons_of_mem token hmem, hother⟩
      · exact ⟨token, List.mem_cons_self, hstart, hhere⟩

theorem tiles_map_unflag {start stop : Nat} {tokens : List Token} :
    Tiles start (tokens.map Matching.unflag) stop <-> Tiles start tokens stop := by
  induction tokens generalizing start with
  | nil => rfl
  | cons token rest ih =>
      show (token.span.start = start ∧ start < token.span.stop ∧
        Tiles token.span.stop (rest.map Matching.unflag) stop) <-> _
      rw [ih]
      rfl

/-!
# The tokens of a text
-/

theorem tiles_layOut {start : Nat} {pieces : List Scan.Piece}
    (h : forall piece, piece ∈ pieces -> piece.chars ≠ []) :
    Tiles start (Scan.layOut start pieces)
      (start + Text.byteLength (pieces.flatMap Scan.Piece.chars)) := by
  induction pieces generalizing start with
  | nil => rfl
  | cons piece rest ih =>
      rw [List.forall_mem_cons] at h
      refine ⟨rfl, Nat.lt_add_of_pos_right (Text.byteLength_pos h.1), ?_⟩
      rw [List.flatMap_cons, Text.byteLength_append, ← Nat.add_assoc]
      exact ih h.2

theorem tiles_tokens (config : Config) (text : String) :
    Tiles 0 (config.tokens text) text.utf8ByteSize := by
  have htiles : Tiles 0
      (Scan.layOut 0 (Scan.pieces config.rules config.defaultKind text.toList))
      (0 + Text.byteLength ((Scan.pieces config.rules config.defaultKind text.toList).flatMap
        Scan.Piece.chars)) :=
    tiles_layOut fun _ => Scan.pieces_chars_ne_nil
  rw [Scan.pieces_chars, Nat.zero_add, Text.byteLength_toList] at htiles
  rw [Config.tokens, Scan.tokens_eq_layOut]
  exact htiles

theorem tokens_unflagged (config : Config) (text : String) :
    forall token, token ∈ config.tokens text -> token.invalid = false :=
  (Scan.partition_tokens text config.rules config.defaultKind).unflagged

/-- Filling statements changes nothing but flags. -/
theorem fill_parts_unflag (config : Config) (parts : List (List Token)) :
    ((parts.map fun part => (Matching.fill config part).statement).flatMap
      Statement.tokens).map Matching.unflag = parts.flatten.map Matching.unflag := by
  rw [List.flatMap_map, List.map_flatMap]
  simp only [Matching.fill_tokens_unflag]
  rw [← List.map_flatMap, List.flatMap_id']

theorem statements_tokens_unflag (config : Config) (tokens : List Token) :
    ((Matching.statements config tokens).flatMap Statement.tokens).map Matching.unflag =
      tokens.map Matching.unflag := by
  rw [Matching.statements_eq_map_chunks, fill_parts_unflag, Matching.chunks_flatten]

theorem parse_tokens_unflag (config : Config) (text : String) :
    ((config.parse text).flatMap Statement.tokens).map Matching.unflag = config.tokens text := by
  rw [Config.parse, statements_tokens_unflag,
    Matching.map_unflag_of_valid (tokens_unflagged config text)]

theorem tiles_parse (config : Config) (text : String) :
    Tiles 0 ((config.parse text).flatMap Statement.tokens) text.utf8ByteSize := by
  rw [← tiles_map_unflag, parse_tokens_unflag]
  exact tiles_tokens config text

/-!
# The span of a statement
-/

theorem span?_of_tiles {statement : Statement} {start stop : Nat}
    (hne : statement.tokens ≠ []) (h : Tiles start statement.tokens stop) :
    statement.span? = some { start := start, stop := stop } := by
  rcases List.exists_cons_of_ne_nil hne with ⟨first, rest, hfirst⟩
  rcases List.eq_nil_or_concat statement.tokens with hnil | ⟨initial, last, hlast⟩
  · exact absurd hnil hne
  · rw [List.concat_eq_append] at hlast
    have hhead : statement.tokens.head? = some first := by
      rw [hfirst, List.head?_cons]
    have hgetLast : statement.tokens.getLast? = some last := by
      rw [hlast, List.getLast?_concat]
    have hstart : first.span.start = start := by
      rw [hfirst] at h
      exact h.1
    have hstop : last.span.stop = stop := by
      rw [hlast, tiles_append] at h
      rcases h with ⟨mid, _, _, _, hstop⟩
      exact hstop
    have hfirstBounds := tiles_mem h (List.mem_of_head? hhead)
    have hlastBounds := tiles_mem h (List.mem_of_getLast? hgetLast)
    rw [Statement.span?, hhead, hgetLast]
    show some (first.span.merge last.span) = _
    rw [Span.merge, hstart, hstop, Nat.min_eq_left (by omega), Nat.max_eq_right (by omega)]

/-!
# The text of a statement

A token is as long as its text, so the offsets at which tokens meet are byte lengths
of initial parts of the text.
-/

theorem parse_token_sized {config : Config} {text : String} {token : Token}
    (h : token ∈ (config.parse text).flatMap Statement.tokens) :
    token.span.stop = token.span.start + Text.byteLength token.text.toList := by
  have hmem : Matching.unflag token ∈ config.tokens text := by
    rw [← parse_tokens_unflag]
    exact List.mem_map_of_mem h
  rcases Scan.tokens_place hmem with ⟨before, piece, after, _, _, hplaced⟩
  show (Matching.unflag token).span.stop = (Matching.unflag token).span.start +
    Text.byteLength (Matching.unflag token).text.toList
  rw [hplaced]
  simp [Token.placed]

theorem tiles_byteLength {start stop : Nat} {tokens : List Token} (h : Tiles start tokens stop)
    (hsized : forall token, token ∈ tokens ->
      token.span.stop = token.span.start + Text.byteLength token.text.toList) :
    start + Text.byteLength ((tokens.map Token.text).flatMap String.toList) = stop := by
  induction tokens generalizing start with
  | nil => exact h
  | cons token rest ih =>
      rw [List.forall_mem_cons] at hsized
      rcases h with ⟨rfl, _, hrest⟩
      rw [List.map_cons, List.flatMap_cons, Text.byteLength_append, ← Nat.add_assoc, ← hsized.1]
      exact ih hrest hsized.2

theorem parse_texts (config : Config) (text : String) :
    (((config.parse text).flatMap Statement.tokens).map Token.text).flatMap String.toList =
      text.toList := by
  have hjoined := Scan.join_tokens text config.rules config.defaultKind
  rw [← String.toList_inj, String.toList_join] at hjoined
  rw [← Config.tokens, ← parse_tokens_unflag, List.map_map] at hjoined
  exact hjoined

/-!
# Statements side by side
-/

/-- The span covers the tokens of the statement, and the text in it is theirs. -/
structure Statement.Covered (text : String) (statement : Statement) (span : Span) : Prop where
  tokens : forall token, token ∈ statement.tokens ->
    span.start ≤ token.span.start ∧ token.span.stop ≤ span.stop
  start_boundary : Text.boundary span.start text.toList = span.start
  stop_boundary : Text.boundary span.stop text.toList = span.stop
  extract : String.ofList (span.extract text.toList) =
    String.join (statement.tokens.map Token.text)

/-- The statements cut the tokens of the text into consecutive runs, and with them the text. -/
structure StatementTiling (config : Config) (text : String) (statements : List Statement) :
    Prop where
  tokens_ne_nil : forall statement, statement ∈ statements -> statement.tokens ≠ []
  kept : (statements.flatMap Statement.tokens).map Matching.unflag = config.tokens text
  covered : forall statement, statement ∈ statements ->
    exists span, statement.span? = some span ∧ statement.Covered text span
  first_start : forall statement rest, statements = statement :: rest ->
    exists span, statement.span? = some span ∧ span.start = 0
  adjacent : forall before a b after, statements = before ++ a :: b :: after ->
    exists left right, a.span? = some left ∧ b.span? = some right ∧ left.stop = right.start
  last_stop : forall before statement, statements = before ++ [statement] ->
    exists span, statement.span? = some span ∧ span.stop = text.utf8ByteSize
  error : forall statement, statement ∈ statements -> forall mismatch,
    statement.error = some mismatch ->
    exists token, token ∈ statement.tokens ∧ mismatch.span = token.span ∧
      mismatch.found = token.kind

/-- A statement starts where the statements before it end, and ends where those after it start. -/
theorem tiles_of_split {config : Config} {text : String} {before after : List Statement}
    {statement : Statement} (h : config.parse text = before ++ statement :: after) :
    exists start stop, Tiles 0 (before.flatMap Statement.tokens) start ∧
      Tiles start statement.tokens stop ∧
      Tiles stop (after.flatMap Statement.tokens) text.utf8ByteSize ∧
      statement.span? = some { start := start, stop := stop } := by
  have htiles := tiles_parse config text
  rw [h, List.flatMap_append, List.flatMap_cons, tiles_append] at htiles
  rcases htiles with ⟨start, hbefore, hrest⟩
  rcases tiles_append.mp hrest with ⟨stop, hstatement, hafter⟩
  have hmem : statement ∈ config.parse text := by
    rw [h]
    simp
  exact ⟨start, stop, hbefore, hstatement, hafter,
    span?_of_tiles (Matching.statement_tokens_ne_nil hmem) hstatement⟩

theorem covered_of_split {config : Config} {text : String} {before after : List Statement}
    {statement : Statement} {span : Span}
    (h : config.parse text = before ++ statement :: after)
    (hspan : statement.span? = some span) : statement.Covered text span := by
  rcases tiles_of_split h with ⟨start, stop, hbefore, hstatement, _, hsome⟩
  rw [hsome, Option.some.injEq] at hspan
  subst hspan
  have hsized : forall token, token ∈ (config.parse text).flatMap Statement.tokens ->
      token.span.stop = token.span.start + Text.byteLength token.text.toList :=
    fun _ => parse_token_sized
  have htext := parse_texts config text
  rw [h, List.flatMap_append, List.flatMap_cons] at hsized
  rw [h, List.flatMap_append, List.flatMap_cons, List.map_append, List.map_append,
    List.flatMap_append, List.flatMap_append] at htext
  have hstart := tiles_byteLength hbefore fun token htoken =>
    hsized token (List.mem_append_left _ htoken)
  have hstop := tiles_byteLength hstatement fun token htoken =>
    hsized token (List.mem_append_right _ (List.mem_append_left _ htoken))
  rw [Nat.zero_add] at hstart
  subst hstart hstop
  constructor
  case tokens =>
    intro token htoken
    have hbounds := tiles_mem hstatement htoken
    exact ⟨hbounds.1, hbounds.2.2⟩
  case start_boundary =>
    rw [← htext]
    exact Text.boundary_byteLength_append _ _
  case stop_boundary =>
    rw [← htext, ← List.append_assoc, ← Text.byteLength_append]
    exact Text.boundary_byteLength_append _ _
  case extract =>
    rw [← htext, Span.extract_append, ← String.toList_inj, String.toList_ofList,
      String.toList_join]

theorem parse_error_token {config : Config} {text : String} {statement : Statement}
    {mismatch : Mismatch} (hmem : statement ∈ config.parse text)
    (herror : statement.error = some mismatch) :
    exists token, token ∈ statement.tokens ∧ mismatch.span = token.span ∧
      mismatch.found = token.kind := by
  have hformed := Matching.statements_wellFormed (tokens_unflagged config text) hmem
  rcases hformed.error.of_some mismatch herror with
    ⟨before, token, after, hsplit, _, _, _, hfound, hspan⟩
  have htoken : token ∈ statement.tokens := by
    rw [hsplit]
    exact List.mem_append_right before List.mem_cons_self
  exact ⟨token, htoken, hspan, hfound⟩

theorem parse_statementTiling (config : Config) (text : String) :
    StatementTiling config text (config.parse text) := by
  constructor
  case tokens_ne_nil =>
    intro statement hmem
    exact Matching.statement_tokens_ne_nil hmem
  case kept => exact parse_tokens_unflag config text
  case covered =>
    intro statement hmem
    rcases List.append_of_mem hmem with ⟨before, after, hsplit⟩
    rcases tiles_of_split hsplit with ⟨start, stop, _, _, _, hspan⟩
    exact ⟨_, hspan, covered_of_split hsplit hspan⟩
  case first_start =>
    intro statement rest hsplit
    have hfront : config.parse text = [] ++ statement :: rest := hsplit
    rcases tiles_of_split hfront with ⟨start, stop, hbefore, _, _, hspan⟩
    exact ⟨_, hspan, hbefore.symm⟩
  case adjacent =>
    intro before a b after hsplit
    rcases tiles_of_split hsplit with ⟨start, stop, hbefore, ha, _, hleft⟩
    rw [List.append_cons] at hsplit
    rcases tiles_of_split hsplit with ⟨mid, last, hmid, _, _, hright⟩
    have hjoined : Tiles 0 ((before ++ [a]).flatMap Statement.tokens) stop := by
      rw [List.flatMap_append, List.flatMap_singleton, tiles_append]
      exact ⟨start, hbefore, ha⟩
    exact ⟨_, _, hleft, hright, tiles_stop_unique hjoined hmid⟩
  case last_stop =>
    intro before statement hsplit
    rcases tiles_of_split hsplit with ⟨start, stop, _, _, hafter, hspan⟩
    exact ⟨_, hspan, hafter⟩
  case error =>
    intro statement hmem mismatch herror
    exact parse_error_token hmem herror

end FieldGrammar
