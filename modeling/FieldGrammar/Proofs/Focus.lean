import FieldGrammar.Analysis
import FieldGrammar.Proofs.Tiling

/-!
# The focus by position

The focus is found by two searches through the tokens of all statements.  Since the
tokens stand side by side, the searches come to a rule about positions: the token
that the caret is in or at the end of goes first, then the token that starts at the
caret, and neither is taken as the token under the caret if it stands between
fields.
-/

namespace FieldGrammar
namespace Focus

/-- The token is the one with these indices, of a statement and in that statement. -/
def Owns (statements : List Statement) (i j : Nat) (token : Token) : Prop :=
  exists statement, statements[i]? = some statement ∧ statement.tokens[j]? = some token

def LeftOf (caret : Nat) (token : Token) : Prop :=
  token.span.start < caret ∧ caret ≤ token.span.stop

def RightOf (caret : Nat) (token : Token) : Prop :=
  token.span.start = caret

/-!
# Places of tokens
-/

/-- A token with what is before it and after it, in its statement and among the statements. -/
theorem owns_split {statements : List Statement} {i j : Nat} {token : Token}
    (h : Owns statements i j token) :
    exists before statement after earlier later,
      statements = before ++ statement :: after ∧ before.length = i ∧
        statement.tokens = earlier ++ token :: later ∧ earlier.length = j := by
  rcases h with ⟨statement, hstatement, htoken⟩
  rcases split_at_index hstatement with ⟨hstatements, hi⟩
  rcases split_at_index htoken with ⟨htokens, hj⟩
  exact ⟨_, statement, _, _, _, hstatements, hi, htokens, hj⟩

theorem flatMap_tokens_split {before after : List Statement} {statement : Statement}
    {earlier later : List Token} {token : Token}
    (htokens : statement.tokens = earlier ++ token :: later) :
    (before ++ statement :: after).flatMap Statement.tokens =
      (before.flatMap Statement.tokens ++ earlier) ++
        token :: (later ++ after.flatMap Statement.tokens) := by
  rw [List.flatMap_append, List.flatMap_cons, htokens]
  simp

theorem exists_owns {statements : List Statement} {token : Token}
    (h : token ∈ statements.flatMap Statement.tokens) :
    exists i j, Owns statements i j token := by
  rcases List.mem_flatMap.mp h with ⟨statement, hstatement, htoken⟩
  rcases List.mem_iff_getElem?.mp hstatement with ⟨i, hi⟩
  rcases List.mem_iff_getElem?.mp htoken with ⟨j, hj⟩
  exact ⟨i, j, statement, hi, hj⟩

theorem mem_of_owns {statements : List Statement} {i j : Nat} {token : Token}
    (h : Owns statements i j token) : token ∈ statements.flatMap Statement.tokens := by
  rcases h with ⟨statement, hstatement, htoken⟩
  exact List.mem_flatMap.mpr
    ⟨statement, List.mem_of_getElem? hstatement, List.mem_of_getElem? htoken⟩

/-!
# Searches through the statements
-/

theorem any_tokens_false {p : Token -> Bool} {statements : List Statement}
    (h : forall token, token ∈ statements.flatMap Statement.tokens -> p token = false) :
    forall statement, statement ∈ statements -> statement.tokens.any p = false := by
  intro statement hstatement
  rw [List.any_eq_false]
  intro token htoken
  simp [h token (List.mem_flatMap.mpr ⟨statement, hstatement, htoken⟩)]

theorem field?_of_first {config : Config} {caret : Nat} {before after : List Statement}
    {statement : Statement} {earlier later : List Token} {token : Token}
    (htokens : statement.tokens = earlier ++ token :: later)
    (hbefore : forall other, other ∈ before.flatMap Statement.tokens ++ earlier ->
      onField config caret other = false)
    (htoken : onField config caret token = true) :
    field? config caret (before ++ statement :: after) =
      some { statement := before.length, token := some earlier.length } := by
  rw [List.forall_mem_append] at hbefore
  have hstatement : (before ++ statement :: after).findIdx?
      (fun statement => statement.tokens.any (onField config caret)) = some before.length := by
    apply findIdx?_split (any_tokens_false hbefore.1)
    rw [htokens, List.any_eq_true]
    exact ⟨token, by simp, htoken⟩
  have hindex : statement.tokens.findIdx? (onField config caret) = some earlier.length := by
    rw [htokens]
    exact findIdx?_split hbefore.2 htoken
  simp [field?, hstatement, hindex]

theorem field?_eq_none {config : Config} {caret : Nat} {statements : List Statement}
    (h : forall token, token ∈ statements.flatMap Statement.tokens ->
      onField config caret token = false) :
    field? config caret statements = none := by
  have hnone : statements.findIdx?
      (fun statement => statement.tokens.any (onField config caret)) = none :=
    List.findIdx?_eq_none_iff.mpr (any_tokens_false h)
  simp [field?, hnone]

theorem touched?_of_first {caret : Nat} {before after : List Statement} {statement : Statement}
    {token : Token}
    (hbefore : forall other, other ∈ before.flatMap Statement.tokens ->
      other.span.touches caret = false)
    (hmem : token ∈ statement.tokens) (htoken : token.span.touches caret = true) :
    touched? caret (before ++ statement :: after) =
      some { statement := before.length, token := none } := by
  have hstatement : (before ++ statement :: after).findIdx?
      (fun statement => statement.tokens.any fun token => token.span.touches caret) =
        some before.length := by
    apply findIdx?_split (any_tokens_false hbefore)
    rw [List.any_eq_true]
    exact ⟨token, hmem, htoken⟩
  rw [touched?, hstatement]
  rfl

theorem touched?_eq_none {caret : Nat} {statements : List Statement}
    (h : forall token, token ∈ statements.flatMap Statement.tokens ->
      token.span.touches caret = false) :
    touched? caret statements = none := by
  rw [touched?, List.findIdx?_eq_none_iff.mpr (any_tokens_false h)]
  rfl

/-- Whatever is found is among the statements, and its token among the tokens. -/
theorem resolve_inRange {config : Config} {statements : List Statement} {caret : Nat}
    {focus : Focus} (h : resolve config statements caret = some focus) :
    exists statement, statements[focus.statement]? = some statement ∧
      forall j, focus.token = some j -> exists token, statement.tokens[j]? = some token := by
  rw [resolve, Option.or_eq_some_iff, Option.or_eq_some_iff] at h
  rcases h with (hfield | ⟨_, htouched⟩) | ⟨_, hlast⟩
  · simp only [field?, Option.bind_eq_bind, Option.bind_eq_some_iff] at hfield
    rcases hfield with ⟨i, _, statement, hstatement, j, hj, hfocus⟩
    cases hfocus
    refine ⟨statement, hstatement, ?_⟩
    intro index hindex
    cases hindex
    rcases List.findIdx?_eq_some_iff_getElem.mp hj with ⟨hlt, _⟩
    exact ⟨statement.tokens[j], List.getElem?_eq_getElem hlt⟩
  · rcases Option.map_eq_some_iff.mp htouched with ⟨i, hi, hfocus⟩
    cases hfocus
    rcases List.findIdx?_eq_some_iff_getElem.mp hi with ⟨hlt, _⟩
    refine ⟨statements[i], List.getElem?_eq_getElem hlt, ?_⟩
    intro index hindex
    cases hindex
  · unfold last? at hlast
    split at hlast
    · cases hlast
    · rename_i hne
      cases hlast
      have hlt : statements.length - 1 < statements.length := by
        have hpos := List.length_pos_iff.mpr (mt List.isEmpty_iff.mpr hne)
        omega
      refine ⟨statements[statements.length - 1], List.getElem?_eq_getElem hlt, ?_⟩
      intro index hindex
      cases hindex

/-- A token that is found is a field under the caret. -/
theorem resolve_onField {config : Config} {statements : List Statement} {caret : Nat}
    {focus : Focus} {j : Nat} {token : Token} (h : resolve config statements caret = some focus)
    (hindex : focus.token = some j) (howns : Owns statements focus.statement j token) :
    onField config caret token = true := by
  rw [resolve, Option.or_eq_some_iff, Option.or_eq_some_iff] at h
  rcases h with (hfield | ⟨_, htouched⟩) | ⟨_, hlast⟩
  · simp only [field?, Option.bind_eq_bind, Option.bind_eq_some_iff] at hfield
    rcases hfield with ⟨i, _, statement, hstatement, index, hfound, hfocus⟩
    cases hfocus
    cases hindex
    rcases howns with ⟨owner, howner, htoken⟩
    rw [hstatement, Option.some.injEq] at howner
    subst howner
    rcases List.findIdx?_eq_some_iff_getElem.mp hfound with ⟨hlt, honField, _⟩
    rw [List.getElem?_eq_getElem hlt, Option.some.injEq] at htoken
    rw [← htoken]
    exact honField
  · rcases Option.map_eq_some_iff.mp htouched with ⟨i, _, rfl⟩
    cases hindex
  · unfold last? at hlast
    split at hlast
    · cases hlast
    · cases hlast
      cases hindex

/-!
# Tokens around the caret

A token that touches the caret is left of it or right of it.  Where tokens stand
side by side, at most one is left of the caret and at most one is right of it.
-/

theorem touches_iff {caret : Nat} {token : Token} (h : token.span.start < token.span.stop) :
    token.span.touches caret = true <-> LeftOf caret token ∨ RightOf caret token := by
  simp only [Span.touches, LeftOf, RightOf, Bool.and_eq_true, decide_eq_true_eq]
  omega

theorem not_touches_before_left {start stop caret : Nat} {before after : List Token}
    {token : Token} (htiles : Tiles start (before ++ token :: after) stop)
    (hleft : LeftOf caret token) :
    forall other, other ∈ before -> other.span.touches caret = false := by
  intro other hother
  have hle := tiles_ordered htiles hother
  have hlt := hleft.1
  simp only [Span.touches, Bool.and_eq_false_iff, decide_eq_false_iff_not]
  omega

theorem leftOf_before_right {start stop caret : Nat} {before after : List Token}
    {token : Token} (htiles : Tiles start (before ++ token :: after) stop)
    (hright : RightOf caret token) :
    forall other, other ∈ before -> other.span.touches caret = true -> LeftOf caret other := by
  intro other hother htouches
  have hle := tiles_ordered htiles hother
  have hlt := (tiles_mem htiles (List.mem_append_left _ hother)).2.1
  rcases (touches_iff hlt).mp htouches with hleft | hsame
  · exact hleft
  · rw [RightOf] at hright hsame
    omega

/-- Tokens with different indices stand in the order of their indices. -/
theorem owns_ordered {statements : List Statement} {size i j i' j' : Nat} {token other : Token}
    (htiles : Tiles 0 (statements.flatMap Statement.tokens) size)
    (htoken : Owns statements i j token) (hother : Owns statements i' j' other)
    (hlt : i < i' ∨ (i = i' ∧ j < j')) : token.span.stop ≤ other.span.start := by
  rcases owns_split hother with ⟨before, statement, after, earlier, later, rfl, hi, htokens, hj⟩
  rw [flatMap_tokens_split htokens] at htiles
  apply tiles_ordered htiles
  rcases htoken with ⟨owner, howner, hindex⟩
  rcases hlt with hlt | ⟨rfl, hlt⟩
  · rw [List.getElem?_append_left (hi ▸ hlt)] at howner
    apply List.mem_append_left
    exact List.mem_flatMap.mpr
      ⟨owner, List.mem_of_getElem? howner, List.mem_of_getElem? hindex⟩
  · rw [← hi, List.getElem?_append_right (Nat.le_refl _), Nat.sub_self,
      List.getElem?_cons_zero] at howner
    cases howner
    rw [htokens, List.getElem?_append_left (hj ▸ hlt)] at hindex
    exact List.mem_append_right _ (List.mem_of_getElem? hindex)

theorem leftOf_unique {statements : List Statement} {size caret i j i' j' : Nat}
    {token other : Token} (htiles : Tiles 0 (statements.flatMap Statement.tokens) size)
    (htoken : Owns statements i j token) (hother : Owns statements i' j' other)
    (hleft : LeftOf caret token) (hleft' : LeftOf caret other) : i = i' ∧ j = j' := by
  have hforward := owns_ordered htiles htoken hother
  have hbackward := owns_ordered htiles hother htoken
  rw [LeftOf] at hleft hleft'
  omega

theorem rightOf_unique {statements : List Statement} {size caret i j i' j' : Nat}
    {token other : Token} (htiles : Tiles 0 (statements.flatMap Statement.tokens) size)
    (htoken : Owns statements i j token) (hother : Owns statements i' j' other)
    (hright : RightOf caret token) (hright' : RightOf caret other) : i = i' ∧ j = j' := by
  have hforward := owns_ordered htiles htoken hother
  have hbackward := owns_ordered htiles hother htoken
  have hlt := (tiles_mem htiles (mem_of_owns htoken)).2.1
  have hlt' := (tiles_mem htiles (mem_of_owns hother)).2.1
  rw [RightOf] at hright hright'
  omega

/-!
# What the searches find
-/

/-- No token but filler satisfies the condition. -/
def OnlyFiller (config : Config) (statements : List Statement) (p : Token -> Prop) : Prop :=
  forall i j token, Owns statements i j token -> p token -> config.isFiller token.kind = true

/-- No token satisfies the condition. -/
def Nowhere (statements : List Statement) (p : Token -> Prop) : Prop :=
  forall i j token, Owns statements i j token -> ¬ p token

theorem onlyFiller_of_nowhere {config : Config} {statements : List Statement}
    {p : Token -> Prop} (h : Nowhere statements p) : OnlyFiller config statements p := by
  intro i j token howns htoken
  exact absurd htoken (h i j token howns)

theorem onlyFiller_mem {config : Config} {statements : List Statement} {p : Token -> Prop}
    (h : OnlyFiller config statements p) :
    forall token, token ∈ statements.flatMap Statement.tokens -> p token ->
      config.isFiller token.kind = true := by
  intro token htoken
  rcases exists_owns htoken with ⟨i, j, howns⟩
  exact h i j token howns

theorem nowhere_mem {statements : List Statement} {p : Token -> Prop}
    (h : Nowhere statements p) :
    forall token, token ∈ statements.flatMap Statement.tokens -> ¬ p token := by
  intro token htoken
  rcases exists_owns htoken with ⟨i, j, howns⟩
  exact h i j token howns

theorem resolve_left_field {config : Config} {statements : List Statement}
    {size caret i j : Nat} {token : Token}
    (htiles : Tiles 0 (statements.flatMap Statement.tokens) size)
    (howns : Owns statements i j token) (hleft : LeftOf caret token)
    (hfield : config.isFiller token.kind = false) :
    resolve config statements caret = some { statement := i, token := some j } := by
  have hlt := (tiles_mem htiles (mem_of_owns howns)).2.1
  rcases owns_split howns with ⟨before, statement, after, earlier, later, rfl, rfl, htokens, rfl⟩
  rw [flatMap_tokens_split htokens] at htiles
  rw [resolve, field?_of_first htokens]
  · rfl
  · intro other hother
    rw [onField, not_touches_before_left htiles hleft other hother, Bool.false_and]
  · rw [onField, (touches_iff hlt).mpr (Or.inl hleft), hfield]
    rfl

theorem resolve_right_field {config : Config} {statements : List Statement}
    {size caret i j : Nat} {token : Token}
    (htiles : Tiles 0 (statements.flatMap Statement.tokens) size)
    (honly : OnlyFiller config statements (LeftOf caret))
    (howns : Owns statements i j token) (hright : RightOf caret token)
    (hfield : config.isFiller token.kind = false) :
    resolve config statements caret = some { statement := i, token := some j } := by
  have hlt := (tiles_mem htiles (mem_of_owns howns)).2.1
  have hfiller := onlyFiller_mem honly
  rcases owns_split howns with ⟨before, statement, after, earlier, later, rfl, rfl, htokens, rfl⟩
  rw [flatMap_tokens_split htokens] at htiles hfiller
  rw [resolve, field?_of_first htokens]
  · rfl
  · intro other hother
    rw [onField]
    cases htouches : other.span.touches caret with
    | false => rfl
    | true =>
        have hleft := leftOf_before_right htiles hright other hother htouches
        rw [hfiller other (List.mem_append_left _ hother) hleft]
        rfl
  · rw [onField, (touches_iff hlt).mpr (Or.inr hright), hfield]
    rfl

/-- Without a field around the caret, the first search finds nothing. -/
theorem field?_eq_none_of_onlyFiller {config : Config} {statements : List Statement}
    {size caret : Nat} (htiles : Tiles 0 (statements.flatMap Statement.tokens) size)
    (hleft : OnlyFiller config statements (LeftOf caret))
    (hright : OnlyFiller config statements (RightOf caret)) :
    field? config caret statements = none := by
  apply field?_eq_none
  intro token htoken
  rw [onField]
  cases htouches : token.span.touches caret with
  | false => rfl
  | true =>
      have hfiller : config.isFiller token.kind = true := by
        rcases (touches_iff (tiles_mem htiles htoken).2.1).mp htouches with hcaret | hcaret
        · exact onlyFiller_mem hleft token htoken hcaret
        · exact onlyFiller_mem hright token htoken hcaret
      rw [hfiller]
      rfl

theorem resolve_left_owner {config : Config} {statements : List Statement}
    {size caret i j : Nat} {token : Token}
    (htiles : Tiles 0 (statements.flatMap Statement.tokens) size)
    (hleft : OnlyFiller config statements (LeftOf caret))
    (hright : OnlyFiller config statements (RightOf caret))
    (howns : Owns statements i j token) (hcaret : LeftOf caret token) :
    resolve config statements caret = some { statement := i, token := none } := by
  have hfield := field?_eq_none_of_onlyFiller htiles hleft hright
  have hlt := (tiles_mem htiles (mem_of_owns howns)).2.1
  rcases owns_split howns with ⟨before, statement, after, earlier, later, rfl, rfl, htokens, rfl⟩
  rw [flatMap_tokens_split htokens] at htiles
  have hmem : token ∈ statement.tokens := by
    simp [htokens]
  rw [resolve, hfield, touched?_of_first _ hmem ((touches_iff hlt).mpr (Or.inl hcaret))]
  · rfl
  · intro other hother
    exact not_touches_before_left htiles hcaret other (List.mem_append_left _ hother)

theorem resolve_right_owner {config : Config} {statements : List Statement}
    {size caret i j : Nat} {token : Token}
    (htiles : Tiles 0 (statements.flatMap Statement.tokens) size)
    (hleft : Nowhere statements (LeftOf caret))
    (hright : OnlyFiller config statements (RightOf caret))
    (howns : Owns statements i j token) (hcaret : RightOf caret token) :
    resolve config statements caret = some { statement := i, token := none } := by
  have hfield := field?_eq_none_of_onlyFiller htiles (onlyFiller_of_nowhere hleft) hright
  have hlt := (tiles_mem htiles (mem_of_owns howns)).2.1
  have hnot := nowhere_mem hleft
  rcases owns_split howns with ⟨before, statement, after, earlier, later, rfl, rfl, htokens, rfl⟩
  rw [flatMap_tokens_split htokens] at htiles hnot
  have hmem : token ∈ statement.tokens := by
    simp [htokens]
  rw [resolve, hfield, touched?_of_first _ hmem ((touches_iff hlt).mpr (Or.inr hcaret))]
  · rfl
  · intro other hother
    have hbefore := List.mem_append_left earlier hother
    cases htouches : other.span.touches caret with
    | false => rfl
    | true =>
        exact absurd (leftOf_before_right htiles hcaret other hbefore htouches)
          (hnot other (List.mem_append_left _ hbefore))

theorem resolve_outside {config : Config} {statements : List Statement} {size caret : Nat}
    (htiles : Tiles 0 (statements.flatMap Statement.tokens) size)
    (hleft : Nowhere statements (LeftOf caret)) (hright : Nowhere statements (RightOf caret)) :
    resolve config statements caret = last? statements := by
  have hfield : field? config caret statements = none :=
    field?_eq_none_of_onlyFiller htiles (onlyFiller_of_nowhere hleft)
      (onlyFiller_of_nowhere hright)
  rw [resolve, hfield, touched?_eq_none]
  · rfl
  · intro token htoken
    cases htouches : token.span.touches caret with
    | false => rfl
    | true =>
        rcases (touches_iff (tiles_mem htiles htoken).2.1).mp htouches with hcaret | hcaret
        · exact absurd hcaret (nowhere_mem hleft token htoken)
        · exact absurd hcaret (nowhere_mem hright token htoken)

/-!
# The rule
-/

/--
The focus of an analysis is decided by the token left of the caret and the token
right of it.  There is at most one of each.
-/
structure ByPosition (config : Config) (text : String) (caret : Nat) (analysis : Analysis) :
    Prop where
  left_unique : forall i j i' j' token other,
    Owns analysis.statements i j token -> Owns analysis.statements i' j' other ->
    LeftOf caret token -> LeftOf caret other -> i = i' ∧ j = j'
  right_unique : forall i j i' j' token other,
    Owns analysis.statements i j token -> Owns analysis.statements i' j' other ->
    RightOf caret token -> RightOf caret other -> i = i' ∧ j = j'
  left_field : forall i j token, Owns analysis.statements i j token -> LeftOf caret token ->
    config.isFiller token.kind = false ->
    analysis.focus = some { statement := i, token := some j } ∧
      analysis.activeToken? = some token
  right_field : OnlyFiller config analysis.statements (LeftOf caret) ->
    forall i j token, Owns analysis.statements i j token -> RightOf caret token ->
    config.isFiller token.kind = false ->
    analysis.focus = some { statement := i, token := some j } ∧
      analysis.activeToken? = some token
  no_field : OnlyFiller config analysis.statements (LeftOf caret) ->
    OnlyFiller config analysis.statements (RightOf caret) -> analysis.activeToken? = none
  left_owner : OnlyFiller config analysis.statements (LeftOf caret) ->
    OnlyFiller config analysis.statements (RightOf caret) ->
    forall i j token, Owns analysis.statements i j token -> LeftOf caret token ->
    analysis.focus = some { statement := i, token := none }
  right_owner : Nowhere analysis.statements (LeftOf caret) ->
    OnlyFiller config analysis.statements (RightOf caret) ->
    forall i j token, Owns analysis.statements i j token -> RightOf caret token ->
    analysis.focus = some { statement := i, token := none }
  outside : Nowhere analysis.statements (LeftOf caret) ->
    Nowhere analysis.statements (RightOf caret) -> text ≠ "" ->
    text.utf8ByteSize < caret ∧
      analysis.focus = some { statement := analysis.statements.length - 1, token := none }
  none_iff : analysis.focus = none <-> text = ""
  in_range : forall focus, analysis.focus = some focus ->
    exists statement, analysis.statements[focus.statement]? = some statement ∧
      analysis.activeStatement? = some statement ∧
      forall j, focus.token = some j ->
        exists token, statement.tokens[j]? = some token ∧ analysis.activeToken? = some token

theorem activeToken?_of_focus {analysis : Analysis} {focus : Focus} {j : Nat} {token : Token}
    (hfocus : analysis.focus = some focus) (hindex : focus.token = some j)
    (howns : Owns analysis.statements focus.statement j token) :
    analysis.activeToken? = some token := by
  rcases howns with ⟨statement, hstatement, htoken⟩
  simp [Analysis.activeToken?, hfocus, hstatement, hindex, htoken]

theorem activeToken?_of_owns {analysis : Analysis} {i j : Nat} {token : Token}
    (hfocus : analysis.focus = some { statement := i, token := some j })
    (howns : Owns analysis.statements i j token) : analysis.activeToken? = some token :=
  activeToken?_of_focus hfocus rfl howns

theorem activeToken?_of_none {analysis : Analysis}
    (h : forall focus, analysis.focus = some focus -> focus.token = none) :
    analysis.activeToken? = none := by
  cases hfocus : analysis.focus with
  | none => simp [Analysis.activeToken?, hfocus]
  | some focus => simp [Analysis.activeToken?, hfocus, h focus hfocus]

theorem activeStatement?_of_focus {analysis : Analysis} {focus : Focus} {statement : Statement}
    (hfocus : analysis.focus = some focus)
    (hstatement : analysis.statements[focus.statement]? = some statement) :
    analysis.activeStatement? = some statement := by
  simp [Analysis.activeStatement?, Analysis.statementAt?, hfocus, hstatement]

theorem token_eq_none_of_field?_eq_none {config : Config} {statements : List Statement}
    {caret : Nat} {focus : Focus} (hfield : field? config caret statements = none)
    (h : resolve config statements caret = some focus) : focus.token = none := by
  rw [resolve, hfield, Option.none_or, Option.or_eq_some_iff] at h
  rcases h with htouched | ⟨_, hlast⟩
  · rcases Option.map_eq_some_iff.mp htouched with ⟨i, _, rfl⟩
    rfl
  · unfold last? at hlast
    split at hlast
    · cases hlast
    · cases hlast
      rfl

theorem last?_eq_none_iff {statements : List Statement} :
    last? statements = none <-> statements = [] := by
  unfold last?
  cases statements with
  | nil => simp
  | cons first rest => simp

theorem resolve_eq_none_iff {config : Config} {statements : List Statement} {caret : Nat} :
    resolve config statements caret = none <-> statements = [] := by
  rw [resolve, Option.or_eq_none_iff, last?_eq_none_iff]
  constructor
  · intro h
    exact h.2
  · rintro rfl
    exact ⟨rfl, rfl⟩

theorem parse_eq_nil_iff (config : Config) (text : String) :
    config.parse text = [] <-> text = "" := by
  constructor
  · intro hnil
    have htiles := tiles_parse config text
    rw [hnil] at htiles
    exact String.utf8ByteSize_eq_zero_iff.mp htiles.symm
  · rintro rfl
    rw [Config.parse, Config.tokens, Scan.tokens_eq_layOut]
    show Matching.statements config
      (Scan.layOut 0 (Scan.pieces config.rules config.defaultKind [])) = []
    rw [Scan.pieces_nil]
    rfl

/-- A caret that is neither right of a token nor left of one is past the end. -/
theorem lt_of_nowhere {statements : List Statement} {size caret : Nat}
    (htiles : Tiles 0 (statements.flatMap Statement.tokens) size) (hsize : 0 < size)
    (hleft : Nowhere statements (LeftOf caret)) (hright : Nowhere statements (RightOf caret)) :
    size < caret := by
  apply Nat.lt_of_not_le
  intro hle
  rcases Nat.eq_zero_or_pos caret with rfl | hpos
  · cases htokens : statements.flatMap Statement.tokens with
    | nil =>
        rw [htokens] at htiles
        exact absurd htiles (Nat.ne_of_lt hsize)
    | cons first rest =>
        have hfirst := nowhere_mem hright first (by simp [htokens])
        rw [htokens] at htiles
        exact hfirst htiles.1
  · rcases tiles_cover htiles hpos hle with ⟨token, htoken, hcover⟩
    exact nowhere_mem hleft token htoken hcover

theorem analyze_byPosition (config : Config) (text : String) (caret : Nat) :
    ByPosition config text caret (config.analyze text caret) := by
  have htiles := tiles_parse config text
  constructor
  case left_unique =>
    intro i j i' j' token other htoken hother
    exact leftOf_unique htiles htoken hother
  case right_unique =>
    intro i j i' j' token other htoken hother
    exact rightOf_unique htiles htoken hother
  case left_field =>
    intro i j token howns hleft hfield
    have hfocus := resolve_left_field htiles howns hleft hfield
    exact ⟨hfocus, activeToken?_of_owns hfocus howns⟩
  case right_field =>
    intro honly i j token howns hright hfield
    have hfocus := resolve_right_field htiles honly howns hright hfield
    exact ⟨hfocus, activeToken?_of_owns hfocus howns⟩
  case no_field =>
    intro hleft hright
    have hfield := field?_eq_none_of_onlyFiller htiles hleft hright
    apply activeToken?_of_none
    intro focus hfocus
    exact token_eq_none_of_field?_eq_none hfield hfocus
  case left_owner =>
    intro hleft hright i j token howns hcaret
    exact resolve_left_owner htiles hleft hright howns hcaret
  case right_owner =>
    intro hleft hright i j token howns hcaret
    exact resolve_right_owner htiles hleft hright howns hcaret
  case outside =>
    intro hleft hright hne
    have hsize : 0 < text.utf8ByteSize :=
      Nat.pos_of_ne_zero (mt String.utf8ByteSize_eq_zero_iff.mp hne)
    have hstatements : (config.parse text).isEmpty = false :=
      List.isEmpty_eq_false_iff.mpr (mt (parse_eq_nil_iff config text).mp hne)
    refine ⟨lt_of_nowhere htiles hsize hleft hright, ?_⟩
    show resolve config (config.parse text) caret = _
    rw [resolve_outside htiles hleft hright, last?, hstatements]
    rfl
  case none_iff => exact resolve_eq_none_iff.trans (parse_eq_nil_iff config text)
  case in_range =>
    intro focus hfocus
    rcases resolve_inRange hfocus with ⟨statement, hstatement, hindices⟩
    refine ⟨statement, hstatement, activeStatement?_of_focus hfocus hstatement, ?_⟩
    intro j hj
    rcases hindices j hj with ⟨token, htoken⟩
    exact ⟨token, htoken, activeToken?_of_focus hfocus hj ⟨statement, hstatement, htoken⟩⟩

/-!
# The end of the text

A caret at the end of the text, or past it, is in the last statement.
-/

theorem mem_of_activeToken? {analysis : Analysis} {token : Token}
    (h : analysis.activeToken? = some token) :
    token ∈ analysis.statements.flatMap Statement.tokens := by
  simp only [Analysis.activeToken?, Option.bind_eq_bind, Option.bind_eq_some_iff] at h
  rcases h with ⟨focus, _, statement, hstatement, j, _, htoken⟩
  exact mem_of_owns ⟨statement, hstatement, htoken⟩

/-- Without a token under the caret, the focus is on a statement only. -/
theorem token_eq_none_of_activeToken? {config : Config} {text : String} {caret : Nat}
    {focus : Focus} (hfocus : (config.analyze text caret).focus = some focus)
    (h : (config.analyze text caret).activeToken? = none) : focus.token = none := by
  rcases resolve_inRange hfocus with ⟨statement, hstatement, hindices⟩
  cases hindex : focus.token with
  | none => rfl
  | some j =>
      rcases hindices j hindex with ⟨token, htoken⟩
      rw [activeToken?_of_focus hfocus hindex ⟨statement, hstatement, htoken⟩] at h
      cases h

theorem statement_at_end {config : Config} {initial : List Statement} {last : Statement}
    {others : List Token} {token : Token} {size caret : Nat} {focus : Focus}
    (htiles : Tiles 0 ((initial ++ [last]).flatMap Statement.tokens) size)
    (htokens : last.tokens = others ++ [token]) (hcaret : size ≤ caret)
    (hfocus : resolve config (initial ++ [last]) caret = some focus)
    (hnone : focus.token = none) : focus.statement = initial.length := by
  have howns : Owns (initial ++ [last]) initial.length others.length token :=
    ⟨last, by simp, by simp [htokens]⟩
  have hright : Nowhere (initial ++ [last]) (RightOf caret) := by
    intro i j other hother hstart
    have hbounds := tiles_mem htiles (mem_of_owns hother)
    rw [RightOf] at hstart
    omega
  rcases Nat.lt_or_eq_of_le hcaret with hpast | rfl
  · have hleft : Nowhere (initial ++ [last]) (LeftOf caret) := by
      intro i j other hother hcaret
      have hbounds := tiles_mem htiles (mem_of_owns hother)
      exact absurd (Nat.le_trans hcaret.2 hbounds.2.2) (Nat.not_le.mpr hpast)
    rw [resolve_outside htiles hleft hright, last?, if_neg (by simp)] at hfocus
    cases hfocus
    simp
  · have hleft : LeftOf size token := by
      have hbounds := tiles_mem htiles (mem_of_owns howns)
      have hstop : token.span.stop = size := by
        rw [List.flatMap_append, List.flatMap_singleton, htokens, ← List.append_assoc,
          tiles_append] at htiles
        rcases htiles with ⟨mid, _, _, _, hstop⟩
        exact hstop
      exact ⟨by omega, Nat.le_of_eq hstop.symm⟩
    cases hfiller : config.isFiller token.kind with
    | false =>
        rw [resolve_left_field htiles howns hleft hfiller] at hfocus
        cases hfocus
        cases hnone
    | true =>
        -- no other token is left of the caret, so the last statement has it by its last token
        have honly : OnlyFiller config (initial ++ [last]) (LeftOf size) := by
          intro i j other hother hcaret
          rcases leftOf_unique htiles howns hother hleft hcaret with ⟨rfl, rfl⟩
          rcases howns with ⟨statement, hstatement, htoken⟩
          rcases hother with ⟨statement', hstatement', htoken'⟩
          rw [hstatement] at hstatement'
          cases hstatement'
          rw [htoken] at htoken'
          cases htoken'
          exact hfiller
        rw [resolve_left_owner htiles honly (onlyFiller_of_nowhere hright) howns hleft] at hfocus
        cases hfocus
        rfl

theorem activeStatement?_at_end {config : Config} {text : String} {caret : Nat}
    (hcaret : text.utf8ByteSize ≤ caret)
    (hnone : (config.analyze text caret).activeToken? = none) :
    (config.analyze text caret).activeStatement? = (config.parse text).getLast? := by
  have htiles := tiles_parse config text
  cases hfocus : (config.analyze text caret).focus with
  | none =>
      have hnil : config.parse text = [] := resolve_eq_none_iff.mp hfocus
      rw [hnil, Analysis.activeStatement?, Analysis.statementAt?, hfocus]
      rfl
  | some focus =>
      have htoken := token_eq_none_of_activeToken? hfocus hnone
      have hresolve : resolve config (config.parse text) caret = some focus := hfocus
      rcases List.eq_nil_or_concat (config.parse text) with hnil | ⟨initial, last, hlast⟩
      · rw [resolve_eq_none_iff.mpr hnil] at hresolve
        cases hresolve
      · rw [List.concat_eq_append] at hlast
        have hmem : last ∈ config.parse text := by
          rw [hlast]
          simp
        rcases List.eq_nil_or_concat last.tokens with hempty | ⟨others, token, hothers⟩
        · exact absurd hempty (Matching.statement_tokens_ne_nil hmem)
        · rw [List.concat_eq_append] at hothers
          rw [hlast] at htiles hresolve
          have hstatement := statement_at_end htiles hothers hcaret hresolve htoken
          rw [hlast, List.getLast?_concat]
          apply activeStatement?_of_focus hfocus
          show (config.parse text)[focus.statement]? = some last
          rw [hstatement, hlast]
          simp

end Focus
end FieldGrammar
