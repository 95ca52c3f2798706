import FieldGrammar.Proofs.Matching.Recovery

/-!
# Statements without errors

Tokens whose kinds spell the format, white space aside, fill a statement without
an error, and the tokens of a complete statement without an error spell the
format.
-/

namespace FieldGrammar
namespace Matching

/-!
# Tokens that spell the format
-/

theorem push_blank {config : Config} {current : Open} {token : Token}
    (h : token.isWhitespace = true) :
    current.push config token =
      current.append config token current.statement.error current.filled := by
  rw [Open.push, if_pos h]

theorem push_expected {config : Config} {current : Open} {token : Token}
    (hsolid : token.isWhitespace = false)
    (hexpected : config.expectedAt? current.filled = some token.kind) :
    current.push config token =
      current.append config token current.statement.error (current.filled + 1) := by
  rw [Open.push, if_neg (by simp [hsolid]), hexpected]
  exact if_pos rfl

theorem solidKinds_concat_blank {tokens : List Token} {token : Token}
    (h : token.isWhitespace = true) : solidKinds (tokens ++ [token]) = solidKinds tokens := by
  simp [solidKinds, h]

theorem solidKinds_concat_solid {tokens : List Token} {token : Token}
    (h : token.isWhitespace = false) :
    solidKinds (tokens ++ [token]) = solidKinds tokens ++ [token.kind] := by
  simp [solidKinds, h]

/-- The statement of tokens that spell the first names of the format. -/
def spelled (config : Config) (tokens : List Token) (n : Nat) : Open :=
  { statement := { tokens := tokens, error := none, incomplete := n < config.fieldCount }
    filled := n }

theorem fill_of_spells {config : Config} {tokens : List Token} {n : Nat}
    (hn : n ≤ config.fieldCount) (hkinds : solidKinds tokens = config.format.take n) :
    fill config tokens = spelled config tokens n := by
  induction tokens using List.reverseRecOn generalizing n with
  | nil =>
      have hpos := fieldCount_pos config
      have hzero : n = 0 := by
        have hlength := congrArg List.length hkinds
        rw [List.length_take, ← Config.fieldCount] at hlength
        simp only [solidKinds, List.filter_nil, List.map_nil, List.length_nil] at hlength
        omega
      rw [hzero, spelled, decide_eq_true hpos]
      rfl
  | append_singleton others token ih =>
      rw [fill_concat]
      cases hblank : token.isWhitespace with
      | true =>
          rw [solidKinds_concat_blank hblank] at hkinds
          rw [ih hn hkinds, push_blank hblank]
          rfl
      | false =>
          rw [solidKinds_concat_solid hblank] at hkinds
          cases n with
          | zero => simp at hkinds
          | succ n =>
              rcases expectedAt?_of_lt hn with ⟨expected, hexpected⟩
              rw [take_succ_of_expectedAt? hexpected] at hkinds
              have hparts := List.append_inj' hkinds rfl
              have hkind : token.kind = expected := by
                simpa using hparts.2
              rw [ih (Nat.le_of_succ_le hn) hparts.1, push_expected hblank]
              · rfl
              · rw [hkind]
                exact hexpected

/-- The last token is the last field, so the statement is not full before it. -/
theorem fits_of_spells {config : Config} {tokens : List Token} {last : Token}
    (hlast : last.isWhitespace = false)
    (hkinds : solidKinds (tokens ++ [last]) = config.format) :
    Fits config (tokens ++ [last]) := by
  rw [solidKinds_concat_solid hlast] at hkinds
  have hlength : (solidKinds tokens).length + 1 = config.fieldCount := by
    rw [Config.fieldCount, ← hkinds, List.length_append]
    rfl
  intro before token after hsplit
  have hprefix : exists more, tokens = before ++ more := by
    rcases split_concat hsplit with ⟨rfl, _, _⟩ | ⟨mid, _, hmid⟩
    · exact ⟨[], (List.append_nil _).symm⟩
    · exact ⟨token :: mid, hmid⟩
  rcases hprefix with ⟨more, rfl⟩
  rw [solidKinds_append] at hlength hkinds
  rw [List.length_append] at hlength
  have hbefore : solidKinds before = config.format.take (solidKinds before).length := by
    rw [← hkinds, List.append_assoc, List.take_left]
  rw [fill_of_spells (by omega) hbefore]
  show (solidKinds before).length < config.fieldCount
  omega

theorem statements_of_spells {config : Config} {tokens : List Token} {last : Token}
    (hlast : last.isWhitespace = false)
    (hkinds : solidKinds (tokens ++ [last]) = config.format) (rest : List Token) :
    statements config (tokens ++ [last] ++ rest) =
      { tokens := tokens ++ [last], error := none, incomplete := false } ::
        statements config rest := by
  have hfill := fill_of_spells (Nat.le_refl config.fieldCount)
    (hkinds.trans (List.take_length (l := config.format)).symm)
  have hfull : Full config (tokens ++ [last]) := by
    rw [Full, hfill]
    rfl
  rw [statements_append_full (by simp) (fits_of_spells hlast hkinds) hfull, hfill]
  simp [spelled]

/-!
# Complete statements
-/

theorem isField_of_valid {token : Token} (h : token.invalid = false) :
    token.isField = !token.isWhitespace := by
  rw [Token.isField, h, Bool.not_false, Bool.and_true]

theorem fill_tokens_of_valid {config : Config} {tokens : List Token}
    (htokens : forall token, token ∈ tokens -> token.invalid = false)
    (hfilled : forall token, token ∈ (fill config tokens).statement.tokens ->
      token.invalid = false) :
    (fill config tokens).statement.tokens = tokens := by
  have hunflag := fill_tokens_unflag config tokens
  rw [map_unflag_of_valid htokens, map_unflag_of_valid hfilled] at hunflag
  exact hunflag

theorem clean_fields {config : Config} {statement : Statement} (h : WellFormed config statement)
    (hcomplete : statement.incomplete = false) :
    statement.fields.map Token.kind = config.format := by
  have hcount : statement.fieldCount = config.fieldCount := by
    apply Nat.le_antisymm h.fieldCount_le
    apply Nat.le_of_not_lt
    intro hlt
    rw [h.incomplete_iff.mpr hlt] at hcomplete
    cases hcomplete
  rw [h.field_kinds, hcount, Config.fieldCount, List.take_length]

end Matching
end FieldGrammar
