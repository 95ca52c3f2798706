import Mathlib.Algebra.GroupWithZero.Nat
import Mathlib.Data.List.Basic
import Mathlib.Order.Bounds.Defs
import FieldGrammar.Proofs.Matching.Attribution

/-!
# Recovery fills as many fields as possible

A token of the wrong kind is passed over, and the field is offered to the next
one.  No other choice of the tokens to pass over fills more fields: the fields
that are filled spell the longest initial part of the repeated format that can be
found, in order, among the kinds of the tokens.
-/

namespace FieldGrammar
namespace Matching

/-- The kinds of the tokens that are not white space. -/
def solidKinds (tokens : List Token) : List String :=
  (tokens.filter fun token => !token.isWhitespace).map Token.kind

/-!
# The repeated format
-/

def cyclicKind (config : Config) (n : Nat) : String :=
  config.format.get ⟨n % config.fieldCount, Nat.mod_lt n (fieldCount_pos config)⟩

/-- The first names of the format repeated forever. -/
def cycle (config : Config) (n : Nat) : List String :=
  (List.range n).map (cyclicKind config)

theorem cycle_succ (config : Config) (n : Nat) :
    cycle config (n + 1) = cycle config n ++ [cyclicKind config n] := by
  simp [cycle, List.range_succ]

theorem cyclicKind_of_expectedAt? {config : Config} {filled : Nat} {expected : String}
    (h : config.expectedAt? filled = some expected) (rounds : Nat) :
    cyclicKind config (rounds * config.fieldCount + filled) = expected := by
  rcases List.getElem?_eq_some_iff.mp h with ⟨hlt, hget⟩
  have hmod : (rounds * config.fieldCount + filled) % config.fieldCount = filled := by
    rw [Nat.mul_add_mod_self_right]
    exact Nat.mod_eq_of_lt hlt
  rw [← hget]
  simp only [cyclicKind, List.get_eq_getElem, hmod]

theorem cycle_eq_take {config : Config} {n : Nat} (h : n ≤ config.fieldCount) :
    cycle config n = config.format.take n := by
  induction n with
  | zero => rfl
  | succ n ih =>
      rcases expectedAt?_of_lt h with ⟨expected, hexpected⟩
      have hkind := cyclicKind_of_expectedAt? hexpected 0
      rw [Nat.zero_mul, Nat.zero_add] at hkind
      rw [cycle_succ, ih (Nat.le_of_succ_le h), hkind, take_succ_of_expectedAt? hexpected]

/-!
# Taking every kind that fits

Going through the kinds from left to right and taking each that is next in the
repeated format reaches as far as any choice.  Where some choice uses the last
kind, it has taken no more names before it, so the greedy one can use it as well
or was ahead already.
-/

def advance (config : Config) (n : Nat) (kind : String) : Nat :=
  if kind = cyclicKind config n then n + 1 else n

def reach (config : Config) (n : Nat) (kinds : List String) : Nat :=
  kinds.foldl (advance config) n

theorem reach_append (config : Config) (n : Nat) (xs ys : List String) :
    reach config n (xs ++ ys) = reach config (reach config n xs) ys :=
  List.foldl_append

theorem concat_sublist_concat_iff {α : Type} {xs ys : List α} {x y : α} :
    List.Sublist (xs ++ [x]) (ys ++ [y]) <->
      List.Sublist (xs ++ [x]) ys ∨ (x = y ∧ List.Sublist xs ys) := by
  rw [← List.reverse_sublist, List.reverse_append, List.reverse_append]
  show List.Sublist (x :: xs.reverse) (y :: ys.reverse) <-> _
  rw [List.cons_sublist_cons', List.reverse_sublist, ← List.reverse_concat, List.reverse_sublist]

theorem cycle_sublist_iff (config : Config) (n : Nat) (kinds : List String) :
    List.Sublist (cycle config n) kinds <-> n ≤ reach config 0 kinds := by
  induction kinds using List.reverseRecOn generalizing n with
  | nil =>
      rw [List.sublist_nil]
      simp [cycle, reach]
  | append_singleton kinds kind ih =>
      cases n with
      | zero => simp [cycle]
      | succ n =>
          rw [cycle_succ, concat_sublist_concat_iff, ← cycle_succ, ih, ih, reach_append]
          show _ <-> n + 1 ≤ advance config (reach config 0 kinds) kind
          by_cases hkind : kind = cyclicKind config (reach config 0 kinds)
          · rw [advance, if_pos hkind]
            constructor
            · rintro (hle | ⟨_, hle⟩)
              · exact Nat.le_succ_of_le hle
              · exact Nat.succ_le_succ hle
            · intro hle
              rcases Nat.lt_or_eq_of_le (Nat.le_of_succ_le_succ hle) with hlt | rfl
              · exact Or.inl hlt
              · exact Or.inr ⟨hkind.symm, Nat.le_refl _⟩
          · rw [advance, if_neg hkind]
            constructor
            · rintro (hle | ⟨hnext, hle⟩)
              · exact hle
              · rcases Nat.lt_or_eq_of_le hle with hlt | rfl
                · exact hlt
                · exact absurd hnext.symm hkind
            · intro hle
              exact Or.inl hle

/-!
# The count of one statement

While a statement is filled, its count moves as the greedy choice does, whatever
number of statements was completed before.
-/

theorem solidKinds_append (xs ys : List Token) :
    solidKinds (xs ++ ys) = solidKinds xs ++ solidKinds ys := by
  simp [solidKinds]

theorem step_reach {config : Config} {current next : Open} {token : Token}
    (h : Open.Step config current token next) (rounds : Nat) :
    reach config (rounds * config.fieldCount + current.filled) (solidKinds [token]) =
      rounds * config.fieldCount + next.filled := by
  cases h with
  | blank hblank =>
      have hkinds : solidKinds [token] = [] := by
        simp [solidKinds, hblank]
      rw [hkinds]
      rfl
  | field hsolid hexpected =>
      have hkinds : solidKinds [token] = [token.kind] := by
        simp [solidKinds, hsolid]
      rw [hkinds]
      show advance config _ token.kind = _
      rw [advance, cyclicKind_of_expectedAt? hexpected, if_pos rfl]
      rfl
  | mismatch hsolid hexpected hkind =>
      have hkinds : solidKinds [token] = [token.kind] := by
        simp [solidKinds, hsolid]
      rw [hkinds]
      show advance config _ token.kind = _
      rw [advance, cyclicKind_of_expectedAt? hexpected, if_neg hkind]
      rfl

theorem fill_reach {config : Config} {tokens : List Token} (h : Fits config tokens)
    (rounds : Nat) :
    reach config (rounds * config.fieldCount) (solidKinds tokens) =
      rounds * config.fieldCount + (fill config tokens).filled := by
  induction tokens using List.reverseRecOn with
  | nil => rfl
  | append_singleton others token ih =>
      rcases fits_concat.mp h with ⟨hothers, hopen⟩
      rw [solidKinds_append, reach_append, ih hothers, fill_concat]
      exact step_reach (push_step token hopen) rounds

theorem take_sublist_iff {config : Config} {tokens : List Token} (h : Fits config tokens)
    {n : Nat} (hn : n ≤ config.fieldCount) :
    List.Sublist (config.format.take n) (solidKinds tokens) <->
      n ≤ (fill config tokens).filled := by
  have hreach := fill_reach h 0
  rw [Nat.zero_mul, Nat.zero_add] at hreach
  rw [← cycle_eq_take hn, cycle_sublist_iff, hreach]

theorem format_sublist_iff {config : Config} {tokens : List Token} (h : Fits config tokens) :
    List.Sublist config.format (solidKinds tokens) <-> Full config tokens := by
  have htake := take_sublist_iff h (Nat.le_refl config.fieldCount)
  rw [Config.fieldCount, List.take_length] at htake
  rw [htake]
  constructor
  · intro hle
    exact Nat.le_antisymm (fill_filled_le h) hle
  · intro hfull
    exact Nat.le_of_eq hfull.symm

/-!
# The count of all statements
-/

/-- The counts of the statements that the chunks fill. -/
def counts (config : Config) (parts : List (List Token)) : List Nat :=
  parts.map fun part => (fill config part).filled

theorem reach_flatten {config : Config} {parts : List (List Token)}
    (hfits : forall part, part ∈ parts -> Fits config part)
    (hfull : forall part, part ∈ parts.dropLast -> Full config part) (rounds : Nat) :
    reach config (rounds * config.fieldCount) (solidKinds parts.flatten) =
      rounds * config.fieldCount + (counts config parts).sum := by
  induction parts generalizing rounds with
  | nil => rfl
  | cons first rest ih =>
      have hfirst := fill_reach (hfits first List.mem_cons_self) rounds
      rw [List.flatten_cons, solidKinds_append, reach_append, hfirst]
      cases rest with
      | nil => rfl
      | cons second others =>
          rw [List.dropLast_cons_cons] at hfull
          have hclosed : (fill config first).filled = config.fieldCount :=
            hfull first List.mem_cons_self
          have hnext : rounds * config.fieldCount + config.fieldCount =
              (rounds + 1) * config.fieldCount := by
            rw [Nat.add_mul, Nat.one_mul]
          have hrest := ih
            (fun part hpart => hfits part (List.mem_cons_of_mem first hpart))
            (fun part hpart => hfull part (List.mem_cons_of_mem first hpart)) (rounds + 1)
          rw [hclosed, hnext, hrest]
          show _ = rounds * config.fieldCount +
            ((fill config first).filled + (counts config (second :: others)).sum)
          rw [hclosed, ← hnext, Nat.add_assoc]

theorem reach_tokens (config : Config) (tokens : List Token) :
    reach config 0 (solidKinds tokens) = (counts config (chunks config tokens)).sum := by
  have hfits : forall chunk, chunk ∈ chunks config tokens -> Fits config chunk :=
    fun _ => chunks_fits
  have hfull : forall chunk, chunk ∈ (chunks config tokens).dropLast -> Full config chunk :=
    fun _ => chunks_dropLast_full
  have hreach := reach_flatten hfits hfull 0
  rw [Nat.zero_mul, Nat.zero_add, chunks_flatten] at hreach
  exact hreach

theorem countP_full {config : Config} {parts : List (List Token)}
    (hfits : forall part, part ∈ parts -> Fits config part)
    (hfull : forall part, part ∈ parts.dropLast -> Full config part) :
    (counts config parts).countP (fun count => count = config.fieldCount) =
      (counts config parts).sum / config.fieldCount := by
  have hpos := fieldCount_pos config
  induction parts with
  | nil => exact (Nat.zero_div _).symm
  | cons first rest ih =>
      have hle := fill_filled_le (hfits first List.mem_cons_self)
      have hcons : counts config (first :: rest) =
          (fill config first).filled :: counts config rest := rfl
      rw [hcons, List.countP_cons, List.sum_cons]
      cases rest with
      | nil =>
          show 0 + _ = ((fill config first).filled + 0) / config.fieldCount
          rcases Nat.lt_or_eq_of_le hle with hlt | heq
          · rw [Nat.add_zero, Nat.div_eq_of_lt hlt]
            simp [Nat.ne_of_lt hlt]
          · rw [heq, Nat.add_zero, Nat.div_self hpos]
            simp
      | cons second others =>
          rw [List.dropLast_cons_cons] at hfull
          have hclosed : (fill config first).filled = config.fieldCount :=
            hfull first List.mem_cons_self
          have hrest := ih
            (fun part hpart => hfits part (List.mem_cons_of_mem first hpart))
            (fun part hpart => hfull part (List.mem_cons_of_mem first hpart))
          rw [hclosed, hrest, Nat.add_div_left _ hpos]
          simp

/-!
# Complete statements

A complete statement is the shortest initial part of the remaining tokens in
which the format can be found.
-/

theorem solidKinds_map_unflag (tokens : List Token) :
    solidKinds (tokens.map unflag) = solidKinds tokens := by
  induction tokens with
  | nil => rfl
  | cons token rest ih =>
      have hblank : (unflag token).isWhitespace = token.isWhitespace := rfl
      have hkind : (unflag token).kind = token.kind := rfl
      simp only [solidKinds, List.map_cons, List.filter_cons, hblank] at ih ⊢
      cases token.isWhitespace with
      | false => simp [hkind, ih]
      | true => simpa using ih

theorem solidKinds_fill (config : Config) (tokens : List Token) :
    solidKinds (fill config tokens).statement.tokens = solidKinds tokens := by
  rw [← solidKinds_map_unflag, fill_tokens_unflag, solidKinds_map_unflag]

structure ShortestComplete (config : Config) (remaining : List Token) (statement : Statement) :
    Prop where
  tokens_eq : statement.tokens.map unflag = remaining.take statement.tokens.length
  contains_format : List.Sublist config.format (solidKinds statement.tokens)
  shortest : forall n, n < statement.tokens.length ->
    ¬ List.Sublist config.format (solidKinds (remaining.take n))

theorem shortestComplete_fill {config : Config} {chunk : List Token} (hfits : Fits config chunk)
    (hfull : Full config chunk) (hvalid : forall token, token ∈ chunk -> token.invalid = false)
    (rest : List Token) :
    ShortestComplete config (chunk ++ rest) (fill config chunk).statement := by
  constructor
  · rw [fill_tokens_unflag, fill_tokens_length, map_unflag_of_valid hvalid, List.take_left]
  · rw [solidKinds_fill]
    exact (format_sublist_iff hfits).mpr hfull
  · intro n hn
    rw [fill_tokens_length] at hn
    rw [List.take_append_of_le_length (Nat.le_of_lt hn)]
    have hcut : chunk = chunk.take n ++ chunk[n] :: chunk.drop (n + 1) := by
      rw [← List.drop_eq_getElem_cons hn, List.take_append_drop]
    have hopen := hfits (chunk.take n) chunk[n] (chunk.drop (n + 1)) hcut
    rw [hcut] at hfits
    intro hsublist
    exact Nat.ne_of_lt hopen ((format_sublist_iff (fits_left hfits)).mp hsublist)

/-- A statement with those before it and after it comes from a chunk so placed. -/
theorem statements_split {config : Config} {tokens : List Token} {before after : List Statement}
    {statement : Statement} (h : statements config tokens = before ++ statement :: after) :
    exists chunk rest, chunk ∈ chunks config tokens ∧
      statement = (fill config chunk).statement ∧
      tokens.drop (before.flatMap Statement.tokens).length = chunk ++ rest := by
  rw [statements_eq_map_chunks, List.map_eq_append_iff] at h
  rcases h with ⟨earlier, others, hchunks, hbefore, hothers⟩
  rcases List.map_eq_cons_iff.mp hothers with ⟨chunk, later, rfl, hstatement, _⟩
  refine ⟨chunk, later.flatten, ?_, hstatement.symm, ?_⟩
  · rw [hchunks]
    simp
  · have hlength : (before.flatMap Statement.tokens).length = earlier.flatten.length := by
      rw [← hbefore, List.length_flatMap, List.length_flatten, List.map_map]
      congr 1
      apply List.map_congr_left
      intro part _
      exact fill_tokens_length config part
    have hflat := chunks_flatten config tokens
    rw [hchunks, List.flatten_append, List.flatten_cons] at hflat
    rw [hlength, ← hflat, List.drop_left]

/-!
# Optimality
-/

theorem statements_fieldCounts {config : Config} {tokens : List Token}
    (hvalid : forall token, token ∈ tokens -> token.invalid = false) :
    (statements config tokens).map Statement.fieldCount =
      counts config (chunks config tokens) := by
  rw [statements_eq_map_chunks, List.map_map]
  apply List.map_congr_left
  intro chunk hchunk
  exact (chunks_invariant hvalid hchunk).filled_eq

theorem statements_complete_count {config : Config} {tokens : List Token}
    (hvalid : forall token, token ∈ tokens -> token.invalid = false) :
    (statements config tokens).countP (fun statement => !statement.incomplete) =
      (counts config (chunks config tokens)).countP (fun count => count = config.fieldCount) := by
  rw [statements_eq_map_chunks, counts, List.countP_map, List.countP_map]
  apply List.countP_congr
  intro chunk hchunk
  have hinvariant := chunks_invariant hvalid hchunk
  have hle := hinvariant.filled_le
  simp only [Function.comp_apply, hinvariant.incomplete_eq, Bool.not_eq_true',
    decide_eq_false_iff_not, decide_eq_true_eq]
  omega

theorem sum_fieldCount_isGreatest {config : Config} {tokens : List Token}
    (hvalid : forall token, token ∈ tokens -> token.invalid = false) :
    IsGreatest { n | List.Sublist (cycle config n) (solidKinds tokens) }
      ((statements config tokens).map Statement.fieldCount).sum := by
  rw [statements_fieldCounts hvalid, ← reach_tokens]
  constructor
  · exact (cycle_sublist_iff config _ _).mpr (Nat.le_refl _)
  · intro n hn
    exact (cycle_sublist_iff config n _).mp hn

theorem complete_count_eq_div {config : Config} {tokens : List Token}
    (hvalid : forall token, token ∈ tokens -> token.invalid = false) :
    (statements config tokens).countP (fun statement => !statement.incomplete) =
      ((statements config tokens).map Statement.fieldCount).sum / config.fieldCount := by
  rw [statements_complete_count hvalid, statements_fieldCounts hvalid]
  exact countP_full (fun _ => chunks_fits) (fun _ => chunks_dropLast_full)

theorem fieldCount_isGreatest {config : Config} {tokens : List Token}
    (hvalid : forall token, token ∈ tokens -> token.invalid = false) {statement : Statement}
    (h : statement ∈ statements config tokens) :
    IsGreatest
      { n | n ≤ config.fieldCount ∧
        List.Sublist (config.format.take n) (solidKinds statement.tokens) }
      statement.fieldCount := by
  rcases mem_statements.mp h with ⟨chunk, hchunk, rfl⟩
  have hfits := chunks_fits hchunk
  have hcount : (fill config chunk).statement.fieldCount = (fill config chunk).filled :=
    (chunks_invariant hvalid hchunk).filled_eq
  rw [hcount, solidKinds_fill]
  constructor
  · have hle := fill_filled_le hfits
    exact ⟨hle, (take_sublist_iff hfits hle).mpr (Nat.le_refl _)⟩
  · rintro n ⟨hn, hsublist⟩
    exact (take_sublist_iff hfits hn).mp hsublist

theorem shortestComplete_of_split {config : Config} {tokens : List Token}
    (hvalid : forall token, token ∈ tokens -> token.invalid = false)
    {before after : List Statement} {statement : Statement}
    (hsplit : statements config tokens = before ++ statement :: after)
    (hcomplete : statement.incomplete = false) :
    ShortestComplete config (tokens.drop (before.flatMap Statement.tokens).length)
      statement := by
  rcases statements_split hsplit with ⟨chunk, rest, hchunk, rfl, hdrop⟩
  have hfits := chunks_fits hchunk
  have hinvariant := chunks_invariant hvalid hchunk
  rw [hinvariant.incomplete_eq, decide_eq_false_iff_not] at hcomplete
  have hfull : Full config chunk :=
    Nat.le_antisymm (fill_filled_le hfits) (Nat.le_of_not_lt hcomplete)
  rw [hdrop]
  exact shortestComplete_fill hfits hfull (chunks_valid hvalid hchunk) rest

theorem statements_fill_most_fields (config : Config) (tokens : List Token)
    (hvalid : forall token, token ∈ tokens -> token.invalid = false) :
    IsGreatest { n | List.Sublist (cycle config n) (solidKinds tokens) }
        ((statements config tokens).map Statement.fieldCount).sum ∧
      (statements config tokens).countP (fun statement => !statement.incomplete) =
        ((statements config tokens).map Statement.fieldCount).sum / config.fieldCount ∧
      (forall statement, statement ∈ statements config tokens ->
        IsGreatest
          { n | n ≤ config.fieldCount ∧
            List.Sublist (config.format.take n) (solidKinds statement.tokens) }
          statement.fieldCount) ∧
      (forall before statement after,
        statements config tokens = before ++ statement :: after ->
        statement.incomplete = false ->
        ShortestComplete config (tokens.drop (before.flatMap Statement.tokens).length)
          statement) := by
  refine ⟨sum_fieldCount_isGreatest hvalid, complete_count_eq_div hvalid, ?_, ?_⟩
  · intro statement hstatement
    exact fieldCount_isGreatest hvalid hstatement
  · intro before statement after hsplit hcomplete
    exact shortestComplete_of_split hvalid hsplit hcomplete

/-- A value before the name is passed over, and the three fields are still filled. -/
theorem strayValueTokens_fill_three :
    ((statements Builtin.config strayValueTokens).map Statement.fieldCount).sum = 3 ∧
      IsGreatest { n | List.Sublist (cycle Builtin.config n) (solidKinds strayValueTokens) } 3 := by
  have hsum : ((statements Builtin.config strayValueTokens).map Statement.fieldCount).sum = 3 := by
    decide
  have hmost := statements_fill_most_fields Builtin.config strayValueTokens (by decide)
  rw [hsum] at hmost
  exact ⟨hsum, hmost.1⟩

end Matching
end FieldGrammar
