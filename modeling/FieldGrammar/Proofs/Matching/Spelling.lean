import Mathlib.Algebra.Order.BigOperators.Group.List
import Mathlib.Algebra.Order.Ring.Nat
import FieldGrammar.Proofs.Matching.Clean
import FieldGrammar.Proofs.Tiling

/-!
# Statements without errors spell the repeated format

White space aside, tokens that are grouped without an error are of the kinds of the
format, repeated as often as there are statements.  Conversely no error comes up
where the kinds are these.
-/

namespace FieldGrammar
namespace Matching

/-!
# Spelling
-/

/-- The kinds are those of the repeated format from the given place on. -/
def Spells (config : Config) : Nat -> List String -> Prop
  | _, [] => True
  | n, kind :: rest => kind = cyclicKind config n ∧ Spells config (n + 1) rest

theorem spells_append {config : Config} {n : Nat} {xs ys : List String} :
    Spells config n (xs ++ ys) <->
      Spells config n xs ∧ Spells config (n + xs.length) ys := by
  induction xs generalizing n with
  | nil => simp [Spells]
  | cons kind rest ih =>
      rw [List.cons_append, Spells, Spells, ih, and_assoc, List.length_cons,
        Nat.add_right_comm, Nat.add_assoc]

theorem length_cycle (config : Config) (n : Nat) : (cycle config n).length = n := by
  simp [cycle]

theorem spells_iff_eq_cycle {config : Config} {kinds : List String} :
    Spells config 0 kinds <-> kinds = cycle config kinds.length := by
  induction kinds using List.reverseRecOn with
  | nil => simp [Spells, cycle]
  | append_singleton others kind ih =>
      rw [spells_append, ih, List.length_append, List.length_singleton, cycle_succ,
        Nat.zero_add]
      constructor
      · rintro ⟨hothers, hkind, _⟩
        rw [← hothers, ← hkind]
      · intro heq
        rcases List.append_inj heq (length_cycle config _).symm with ⟨hothers, hkind⟩
        exact ⟨hothers, List.cons.inj hkind |>.1, trivial⟩

theorem mem_format_of_spells {config : Config} {n : Nat} {kinds : List String}
    (h : Spells config n kinds) : forall kind, kind ∈ kinds -> kind ∈ config.format := by
  induction kinds generalizing n with
  | nil =>
      intro kind hkind
      cases hkind
  | cons first rest ih =>
      intro kind hkind
      rcases List.mem_cons.mp hkind with rfl | hlater
      · rw [h.1]
        exact List.get_mem _ _
      · exact ih h.2 kind hlater

/-!
# Fields among the tokens that are not white space
-/

theorem fields_eq_filter_solid (statement : Statement) :
    statement.fields =
      (statement.tokens.filter fun token => !token.isWhitespace).filter Token.isField := by
  rw [Statement.fields, List.filter_filter]
  apply List.filter_congr
  intro token _
  rw [Token.isField, Bool.and_right_comm, Bool.and_self]

theorem fieldCount_le_solid (statement : Statement) :
    statement.fieldCount ≤ (solidKinds statement.tokens).length := by
  rw [Statement.fieldCount, fields_eq_filter_solid, solidKinds, List.length_map]
  exact List.length_filter_le _ _

/-- All tokens but white space are fields exactly where there is no error. -/
theorem fieldCount_eq_solid_iff {config : Config} {statement : Statement}
    (h : WellFormed config statement) :
    statement.fieldCount = (solidKinds statement.tokens).length <-> statement.error = none := by
  rw [h.error.none_iff, Statement.fieldCount, fields_eq_filter_solid, solidKinds,
    List.length_map, List.length_filter_eq_length_iff]
  constructor
  · intro hfields token htoken
    cases hblank : token.isWhitespace with
    | true =>
        rcases List.append_of_mem htoken with ⟨before, after, hsplit⟩
        exact (h.flags before token after hsplit).whitespace hblank
    | false =>
        have hfield := hfields token (List.mem_filter.mpr ⟨htoken, by simp [hblank]⟩)
        simpa [Token.isField, hblank] using hfield
  · intro hvalid token htoken
    rcases List.mem_filter.mp htoken with ⟨hmem, hsolid⟩
    rw [isField_of_valid (hvalid token hmem)]
    exact hsolid

theorem field_kinds_of_no_error {config : Config} {statement : Statement}
    (h : WellFormed config statement) (herror : statement.error = none) :
    statement.fields.map Token.kind = solidKinds statement.tokens := by
  have hcount := (fieldCount_eq_solid_iff h).mpr herror
  rw [Statement.fieldCount, fields_eq_filter_solid, solidKinds, List.length_map,
    List.length_filter_eq_length_iff] at hcount
  rw [fields_eq_filter_solid, solidKinds, List.filter_eq_self.mpr hcount]

/-!
# All statements
-/

theorem solidKinds_flatMap (statements : List Statement) :
    solidKinds (statements.flatMap Statement.tokens) =
      statements.flatMap fun statement => solidKinds statement.tokens := by
  induction statements with
  | nil => rfl
  | cons statement rest ih => rw [List.flatMap_cons, List.flatMap_cons, solidKinds_append, ih]

theorem solidKinds_statements (config : Config) (tokens : List Token) :
    (statements config tokens).flatMap (fun statement => solidKinds statement.tokens) =
      solidKinds tokens := by
  rw [← solidKinds_flatMap, ← solidKinds_map_unflag, statements_tokens_unflag,
    solidKinds_map_unflag]

theorem sum_fieldCount_eq_iff {config : Config} {tokens : List Token}
    (hvalid : forall token, token ∈ tokens -> token.invalid = false) :
    (solidKinds tokens).length ≤ ((statements config tokens).map Statement.fieldCount).sum <->
      forall statement, statement ∈ statements config tokens -> statement.error = none := by
  rw [← solidKinds_statements config tokens, List.length_flatMap]
  constructor
  · intro hle statement hstatement
    rw [← fieldCount_eq_solid_iff (statements_wellFormed hvalid hstatement)]
    apply Nat.le_antisymm (fieldCount_le_solid statement)
    apply Nat.le_of_not_lt
    intro hlt
    exact absurd hle (Nat.not_le.mpr (List.sum_lt_sum _ _
      (fun other _ => fieldCount_le_solid other) ⟨statement, hstatement, hlt⟩))
  · intro hnone
    apply Nat.le_of_eq
    congr 1
    apply List.map_congr_left
    intro statement hstatement
    exact ((fieldCount_eq_solid_iff (statements_wellFormed hvalid hstatement)).mpr
      (hnone statement hstatement)).symm

theorem no_errors_iff_spells {config : Config} {tokens : List Token}
    (hvalid : forall token, token ∈ tokens -> token.invalid = false) :
    (forall statement, statement ∈ statements config tokens -> statement.error = none) <->
      Spells config 0 (solidKinds tokens) := by
  rw [← sum_fieldCount_eq_iff hvalid, statements_fieldCounts hvalid, ← reach_tokens,
    ← cycle_sublist_iff, spells_iff_eq_cycle]
  constructor
  · intro hsublist
    exact (hsublist.eq_of_length (length_cycle config _)).symm
  · intro heq
    rw [← heq]

theorem tokens_of_no_errors {config : Config} {tokens : List Token}
    (hvalid : forall token, token ∈ tokens -> token.invalid = false)
    (hnone : forall statement, statement ∈ statements config tokens -> statement.error = none) :
    (statements config tokens).flatMap Statement.tokens = tokens := by
  have hflags : forall token, token ∈ (statements config tokens).flatMap Statement.tokens ->
      token.invalid = false := by
    intro token htoken
    rcases List.mem_flatMap.mp htoken with ⟨statement, hstatement, hmem⟩
    have hwell := statements_wellFormed hvalid hstatement
    exact hwell.error.none_iff.mp (hnone statement hstatement) token hmem
  have hunflag := statements_tokens_unflag config tokens
  rw [map_unflag_of_valid hvalid, map_unflag_of_valid hflags] at hunflag
  exact hunflag

/-- The kinds of all fields, statement by statement. -/
def fieldKinds (statements : List Statement) : List String :=
  statements.flatMap fun statement => statement.fields.map Token.kind

theorem fieldKinds_of_no_errors {config : Config} {tokens : List Token}
    (hvalid : forall token, token ∈ tokens -> token.invalid = false)
    (hnone : forall statement, statement ∈ statements config tokens -> statement.error = none) :
    fieldKinds (statements config tokens) = solidKinds tokens := by
  rw [← solidKinds_statements config tokens]
  apply List.flatMap_congr
  intro statement hstatement
  exact field_kinds_of_no_error (statements_wellFormed hvalid hstatement)
    (hnone statement hstatement)

/-!
# The next kind

The field expected in the last statement is the next one of the repeated format.
-/

theorem sum_fieldCount_concat {config : Config} {tokens : List Token}
    (hvalid : forall token, token ∈ tokens -> token.invalid = false)
    {initial : List Statement} {last : Statement}
    (hsplit : statements config tokens = initial ++ [last]) :
    ((statements config tokens).map Statement.fieldCount).sum =
      initial.length * config.fieldCount + last.fieldCount := by
  have hfull : forall statement, statement ∈ initial ->
      statement.fieldCount = config.fieldCount := by
    intro statement hstatement
    have hmem : statement ∈ statements config tokens := by
      rw [hsplit]
      exact List.mem_append_left _ hstatement
    have hcomplete : statement.incomplete = false := by
      apply statements_dropLast_complete hvalid
      rw [hsplit, List.dropLast_concat]
      exact hstatement
    have hkinds := congrArg List.length
      (clean_fields (statements_wellFormed hvalid hmem) hcomplete)
    rw [List.length_map] at hkinds
    exact hkinds
  rw [hsplit, List.map_append, List.sum_append, List.map_eq_replicate_iff.mpr hfull]
  simp

theorem cyclicKind_of_expected {config : Config} {tokens : List Token}
    (hvalid : forall token, token ∈ tokens -> token.invalid = false)
    (hnone : forall statement, statement ∈ statements config tokens -> statement.error = none)
    {kind : String}
    (hkind : config.expectedAt?
      (((statements config tokens).getLast?.map Statement.fieldCount).getD 0) = some kind) :
    cyclicKind config (solidKinds tokens).length = kind := by
  have hsum : (solidKinds tokens).length =
      ((statements config tokens).map Statement.fieldCount).sum := by
    rw [← fieldKinds_of_no_errors hvalid hnone, fieldKinds, List.length_flatMap]
    simp only [List.length_map]
    rfl
  rcases List.eq_nil_or_concat (statements config tokens) with hnil | ⟨initial, last, hlast⟩
  · rw [hnil] at hkind hsum
    rw [hsum]
    have hfirst := cyclicKind_of_expectedAt? hkind 0
    rw [Nat.zero_mul] at hfirst
    exact hfirst
  · rw [List.concat_eq_append] at hlast
    rw [hlast, List.getLast?_concat] at hkind
    rw [hsum, sum_fieldCount_concat hvalid hlast]
    exact cyclicKind_of_expectedAt? hkind initial.length

end Matching
end FieldGrammar
