import Mathlib.Data.List.Induction
import FieldGrammar.Matching
import FieldGrammar.Proofs.Splits

/-!
# The tokens of each statement

Every statement is what one run of consecutive tokens fills, starting from the
empty statement.  These runs are the chunks of the tokens.  A chunk takes no
token once its statement is full, and all chunks but the last one are full.
-/

namespace FieldGrammar
namespace Matching

/-!
# One token

What a token does while a field is still expected: white space and a token of
another kind leave the count as it is, and a token of the expected kind fills the
field.
-/

inductive Open.Step (config : Config) (current : Open) (token : Token) : Open -> Prop where
  | blank :
      token.isWhitespace = true ->
      Step config current token
        (current.append config token current.statement.error current.filled)
  | field :
      token.isWhitespace = false ->
      config.expectedAt? current.filled = some token.kind ->
      Step config current token
        (current.append config token current.statement.error (current.filled + 1))
  | mismatch {expected : String} :
      token.isWhitespace = false ->
      config.expectedAt? current.filled = some expected ->
      token.kind ≠ expected ->
      Step config current token
        (current.append config { token with invalid := true }
          (some { expected := expected, found := token.kind, span := token.span })
          current.filled)

theorem expectedAt?_of_lt {config : Config} {filled : Nat} (h : filled < config.fieldCount) :
    exists expected, config.expectedAt? filled = some expected := by
  exact ⟨config.format[filled], List.getElem?_eq_getElem h⟩

theorem take_succ_of_expectedAt? {config : Config} {filled : Nat} {expected : String}
    (h : config.expectedAt? filled = some expected) :
    config.format.take (filled + 1) = config.format.take filled ++ [expected] := by
  rw [Config.expectedAt?] at h
  rw [List.take_add_one, h]
  rfl

theorem push_step {config : Config} {current : Open} (token : Token)
    (hopen : current.filled < config.fieldCount) :
    Open.Step config current token (current.push config token) := by
  rcases expectedAt?_of_lt hopen with ⟨expected, hexpected⟩
  unfold Open.push
  rw [hexpected, Option.getD_some]
  by_cases hblank : token.isWhitespace = true
  · rw [if_pos hblank]
    exact Open.Step.blank hblank
  · rw [if_neg hblank]
    by_cases hkind : token.kind = expected
    · rw [if_pos hkind]
      exact Open.Step.field (by simpa using hblank) (by rw [hexpected, hkind])
    · rw [if_neg hkind]
      exact Open.Step.mismatch (by simpa using hblank) hexpected hkind

/-!
# What is added

Whatever a token does, it is added at the end, with its flag set or as it came.
Coming as it is kept, it would do the same.
-/

def unflag (token : Token) : Token :=
  { token with invalid := false }

theorem push_eq_append (config : Config) (current : Open) (token : Token) :
    exists kept error filled,
      current.push config token = current.append config kept error filled ∧
        unflag kept = unflag token ∧ current.push config kept = current.push config token := by
  unfold Open.push
  by_cases hblank : token.isWhitespace = true
  · rw [if_pos hblank]
    refine ⟨token, _, _, rfl, rfl, ?_⟩
    rw [if_pos hblank]
  · rw [if_neg hblank]
    by_cases hkind : token.kind = (config.expectedAt? current.filled).getD ""
    · rw [if_pos hkind]
      refine ⟨token, _, _, rfl, rfl, ?_⟩
      rw [if_neg hblank, if_pos hkind]
    · rw [if_neg hkind]
      refine ⟨{ token with invalid := true }, _, _, rfl, rfl, ?_⟩
      have hsame : ({ token with invalid := true } : Token).isWhitespace = token.isWhitespace :=
        rfl
      rw [hsame, if_neg hblank, if_neg hkind]

/-!
# Filling one statement
-/

/-- The statement that the tokens fill when none of them closes it. -/
def fill (config : Config) (tokens : List Token) : Open :=
  tokens.foldl (Open.push config) Open.start

@[simp] theorem fill_nil (config : Config) : fill config [] = Open.start := rfl

@[simp] theorem fill_concat (config : Config) (tokens : List Token) (token : Token) :
    fill config (tokens ++ [token]) = (fill config tokens).push config token := by
  rw [fill, List.foldl_append]
  rfl

def Full (config : Config) (tokens : List Token) : Prop :=
  (fill config tokens).filled = config.fieldCount

/-- No token comes after the statement is full. -/
def Fits (config : Config) (tokens : List Token) : Prop :=
  forall before token after, tokens = before ++ token :: after ->
    (fill config before).filled < config.fieldCount

theorem fieldCount_pos (config : Config) : 0 < config.fieldCount :=
  List.length_pos_iff.mpr config.wellFormed.format_ne_nil

theorem fits_nil (config : Config) : Fits config [] := by
  intro before token after h
  cases before <;> cases h

theorem fits_concat {config : Config} {tokens : List Token} {token : Token} :
    Fits config (tokens ++ [token]) <->
      Fits config tokens ∧ (fill config tokens).filled < config.fieldCount := by
  constructor
  · intro h
    constructor
    · intro before other after hsplit
      apply h before other (after ++ [token])
      rw [hsplit, List.append_assoc]
      rfl
    · exact h tokens token [] rfl
  · rintro ⟨hfits, hopen⟩ before other after hsplit
    rcases split_concat hsplit with ⟨rfl, _, _⟩ | ⟨mid, _, hmid⟩
    · exact hopen
    · exact hfits before other mid hmid

theorem fits_left {config : Config} {xs ys : List Token} (h : Fits config (xs ++ ys)) :
    Fits config xs := by
  intro before token after hsplit
  apply h before token (after ++ ys)
  rw [hsplit, List.append_assoc]
  rfl

theorem step_filled_le {config : Config} {current next : Open} {token : Token}
    (h : Open.Step config current token next) (hopen : current.filled < config.fieldCount) :
    next.filled ≤ config.fieldCount := by
  cases h with
  | blank _ => exact Nat.le_of_lt hopen
  | field _ _ => exact hopen
  | mismatch _ _ _ => exact Nat.le_of_lt hopen

theorem fill_filled_le {config : Config} {tokens : List Token} (h : Fits config tokens) :
    (fill config tokens).filled ≤ config.fieldCount := by
  rcases List.eq_nil_or_concat tokens with rfl | ⟨others, last, rfl⟩
  · exact Nat.zero_le _
  · rw [List.concat_eq_append] at h ⊢
    have hopen := (fits_concat.mp h).2
    rw [fill_concat]
    exact step_filled_le (push_step last hopen) hopen

/-!
# Complete statements

Whether a statement is complete says whether its chunk is full, whatever flags the
tokens came with.
-/

theorem push_incomplete (config : Config) (current : Open) (token : Token) :
    (current.push config token).statement.incomplete =
      decide ((current.push config token).filled < config.fieldCount) := by
  rcases push_eq_append config current token with ⟨kept, error, filled, hpush, _, _⟩
  rw [hpush]
  rfl

theorem fill_incomplete (config : Config) (tokens : List Token) :
    (fill config tokens).statement.incomplete =
      decide ((fill config tokens).filled < config.fieldCount) := by
  rcases List.eq_nil_or_concat tokens with rfl | ⟨others, last, rfl⟩
  · exact (decide_eq_true (fieldCount_pos config)).symm
  · rw [List.concat_eq_append, fill_concat]
    exact push_incomplete config (fill config others) last

theorem complete_iff_full {config : Config} {tokens : List Token} (h : Fits config tokens) :
    (fill config tokens).statement.incomplete = false <-> Full config tokens := by
  rw [fill_incomplete, decide_eq_false_iff_not, Nat.not_lt]
  constructor
  · exact Nat.le_antisymm (fill_filled_le h)
  · exact Nat.le_of_eq ∘ Eq.symm

/-!
# Tokens are kept

A statement holds the tokens that were put into it, in their order, with nothing
but their flags changed.
-/

theorem push_tokens_unflag (config : Config) (current : Open) (token : Token) :
    (current.push config token).statement.tokens.map unflag =
      current.statement.tokens.map unflag ++ [unflag token] := by
  rcases push_eq_append config current token with ⟨kept, error, filled, hpush, hkept, _⟩
  rw [hpush, ← hkept]
  exact List.map_append

theorem fill_tokens_unflag (config : Config) (tokens : List Token) :
    (fill config tokens).statement.tokens.map unflag = tokens.map unflag := by
  induction tokens using List.reverseRecOn with
  | nil => rfl
  | append_singleton others token ih =>
      rw [fill_concat, push_tokens_unflag, ih, List.map_append]
      rfl

theorem fill_tokens_length (config : Config) (tokens : List Token) :
    (fill config tokens).statement.tokens.length = tokens.length := by
  have hlength := congrArg List.length (fill_tokens_unflag config tokens)
  simpa using hlength

theorem map_unflag_of_valid {tokens : List Token}
    (h : forall token, token ∈ tokens -> token.invalid = false) : tokens.map unflag = tokens := by
  rw [← List.map_id tokens, List.map_map]
  apply List.map_congr_left
  intro token htoken
  have hinvalid := h token htoken
  cases token
  cases hinvalid
  rfl

/-!
# Chunks

The grouping into statements, keeping the tokens of each statement instead of the
statement.
-/

def chunksFrom (config : Config) : List Token -> List Token -> List (List Token)
  | current, [] => [current]
  | current, token :: rest =>
      if (fill config current).filled = config.fieldCount then
        current :: chunksFrom config [token] rest
      else chunksFrom config (current ++ [token]) rest

def chunks (config : Config) : List Token -> List (List Token)
  | [] => []
  | token :: rest => chunksFrom config [token] rest

theorem statementsFrom_fill (config : Config) (current rest : List Token) :
    statementsFrom config (fill config current) rest =
      (chunksFrom config current rest).map fun chunk => (fill config chunk).statement := by
  induction rest generalizing current with
  | nil => rfl
  | cons token rest ih =>
      rw [statementsFrom, chunksFrom]
      by_cases hfull : (fill config current).filled = config.fieldCount
      · rw [if_pos hfull, if_pos hfull, List.map_cons, ← ih]
        rfl
      · rw [if_neg hfull, if_neg hfull, ← ih, fill_concat]

theorem statements_eq_map_chunks (config : Config) (tokens : List Token) :
    statements config tokens =
      (chunks config tokens).map fun chunk => (fill config chunk).statement := by
  cases tokens with
  | nil => rfl
  | cons token rest => exact statementsFrom_fill config [token] rest

theorem chunksFrom_flatten (config : Config) (current rest : List Token) :
    (chunksFrom config current rest).flatten = current ++ rest := by
  induction rest generalizing current with
  | nil => simp [chunksFrom]
  | cons token rest ih =>
      rw [chunksFrom]
      split
      · rw [List.flatten_cons, ih]
        rfl
      · rw [ih, List.append_assoc]
        rfl

theorem chunks_flatten (config : Config) (tokens : List Token) :
    (chunks config tokens).flatten = tokens := by
  cases tokens with
  | nil => rfl
  | cons token rest => exact chunksFrom_flatten config [token] rest

theorem chunksFrom_ne_nil (config : Config) (current rest : List Token) :
    chunksFrom config current rest ≠ [] := by
  induction rest generalizing current with
  | nil => simp [chunksFrom]
  | cons token rest ih =>
      rw [chunksFrom]
      split
      · simp
      · exact ih (current ++ [token])

theorem mem_chunksFrom_ne_nil {config : Config} {current : List Token} (hcurrent : current ≠ [])
    (rest : List Token) :
    forall chunk, chunk ∈ chunksFrom config current rest -> chunk ≠ [] := by
  induction rest generalizing current with
  | nil =>
      intro chunk hchunk
      rw [List.mem_singleton.mp hchunk]
      exact hcurrent
  | cons token rest ih =>
      intro chunk hchunk
      rw [chunksFrom] at hchunk
      split at hchunk
      · rcases List.mem_cons.mp hchunk with rfl | hlater
        · exact hcurrent
        · exact ih (by simp) chunk hlater
      · exact ih (by simp) chunk hchunk

theorem mem_chunks_ne_nil {config : Config} {tokens chunk : List Token}
    (h : chunk ∈ chunks config tokens) : chunk ≠ [] := by
  cases tokens with
  | nil => cases h
  | cons token rest => exact mem_chunksFrom_ne_nil (by simp) rest chunk h

theorem fits_singleton (config : Config) (token : Token) : Fits config [token] :=
  fits_concat.mpr ⟨fits_nil config, fieldCount_pos config⟩

theorem chunksFrom_fits {config : Config} {current : List Token} (hcurrent : Fits config current)
    (rest : List Token) :
    forall chunk, chunk ∈ chunksFrom config current rest -> Fits config chunk := by
  induction rest generalizing current with
  | nil =>
      intro chunk hchunk
      rw [List.mem_singleton.mp hchunk]
      exact hcurrent
  | cons token rest ih =>
      intro chunk hchunk
      rw [chunksFrom] at hchunk
      split at hchunk
      · rcases List.mem_cons.mp hchunk with rfl | hlater
        · exact hcurrent
        · exact ih (fits_singleton config token) chunk hlater
      · rename_i hopen
        have hlt : (fill config current).filled < config.fieldCount :=
          Nat.lt_of_le_of_ne (fill_filled_le hcurrent) hopen
        exact ih (fits_concat.mpr ⟨hcurrent, hlt⟩) chunk hchunk

theorem chunks_fits {config : Config} {tokens chunk : List Token}
    (h : chunk ∈ chunks config tokens) : Fits config chunk := by
  cases tokens with
  | nil => cases h
  | cons token rest => exact chunksFrom_fits (fits_singleton config token) rest chunk h

theorem chunksFrom_dropLast_full (config : Config) (current rest : List Token) :
    forall chunk, chunk ∈ (chunksFrom config current rest).dropLast -> Full config chunk := by
  induction rest generalizing current with
  | nil =>
      intro chunk hchunk
      cases hchunk
  | cons token rest ih =>
      intro chunk hchunk
      rw [chunksFrom] at hchunk
      split at hchunk
      · rename_i hfull
        rw [List.dropLast_cons_of_ne_nil (chunksFrom_ne_nil config [token] rest)] at hchunk
        rcases List.mem_cons.mp hchunk with rfl | hlater
        · exact hfull
        · exact ih [token] chunk hlater
      · exact ih (current ++ [token]) chunk hchunk

theorem chunks_dropLast_full {config : Config} {tokens chunk : List Token}
    (h : chunk ∈ (chunks config tokens).dropLast) : Full config chunk := by
  cases tokens with
  | nil => cases h
  | cons token rest => exact chunksFrom_dropLast_full config [token] rest chunk h

/-- A token is added to the current chunk as long as the statement is not full. -/
theorem chunksFrom_append {config : Config} {current more : List Token}
    (h : Fits config (current ++ more)) (rest : List Token) :
    chunksFrom config current (more ++ rest) = chunksFrom config (current ++ more) rest := by
  induction more generalizing current with
  | nil => rw [List.nil_append, List.append_nil]
  | cons token others ih =>
      have hopen := h current token others rfl
      have happend : current ++ token :: others = current ++ [token] ++ others :=
        List.append_cons current token others
      rw [happend] at h ⊢
      rw [List.cons_append, chunksFrom, if_neg (Nat.ne_of_lt hopen)]
      exact ih h

theorem chunks_append_fits {config : Config} {chunk : List Token} (hne : chunk ≠ [])
    (hfits : Fits config chunk) (rest : List Token) :
    chunks config (chunk ++ rest) = chunksFrom config chunk rest := by
  cases chunk with
  | nil => exact absurd rfl hne
  | cons token others =>
      show chunksFrom config [token] (others ++ rest) = _
      rw [chunksFrom_append hfits rest]
      rfl

theorem chunks_append_full {config : Config} {chunk : List Token} (hne : chunk ≠ [])
    (hfits : Fits config chunk) (hfull : Full config chunk) (rest : List Token) :
    chunks config (chunk ++ rest) = chunk :: chunks config rest := by
  rw [chunks_append_fits hne hfits]
  cases rest with
  | nil => rfl
  | cons next later => exact if_pos hfull

theorem ne_nil_of_full {config : Config} {chunk : List Token} (h : Full config chunk) :
    chunk ≠ [] := by
  rintro rfl
  have hpos := fieldCount_pos config
  rw [← h] at hpos
  cases hpos

theorem chunks_flatten_append {config : Config} {parts : List (List Token)}
    (hfits : forall part, part ∈ parts -> Fits config part)
    (hfull : forall part, part ∈ parts -> Full config part) (rest : List Token) :
    chunks config (parts.flatten ++ rest) = parts ++ chunks config rest := by
  induction parts with
  | nil => rfl
  | cons part others ih =>
      rw [List.forall_mem_cons] at hfits hfull
      rw [List.flatten_cons, List.append_assoc,
        chunks_append_full (ne_nil_of_full hfull.1) hfits.1 hfull.1, ih hfits.2 hfull.2]
      rfl

theorem statements_append_full {config : Config} {chunk : List Token} (hne : chunk ≠ [])
    (hfits : Fits config chunk) (hfull : Full config chunk) (rest : List Token) :
    statements config (chunk ++ rest) =
      (fill config chunk).statement :: statements config rest := by
  rw [statements_eq_map_chunks, chunks_append_full hne hfits hfull, List.map_cons,
    ← statements_eq_map_chunks]

end Matching
end FieldGrammar
