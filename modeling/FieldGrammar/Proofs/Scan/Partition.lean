import FieldGrammar.Proofs.Scan.Pieces

/-!
# The tokens partition the text

The tokens of a scan stand side by side, without gaps, from the first byte of the
text to its last.  The offsets that the scan adds up on its way never leave the
text either.
-/

namespace FieldGrammar
namespace Scan

/-- The tokens cut the text into consecutive parts and tell where each part stands. -/
structure Partition (text : String) (rules : List Rule) (defaultKind : String)
    (tokens : List Token) : Prop where
  text_ne_empty : ∀ token ∈ tokens, token.text ≠ ""
  joined : String.join (tokens.map Token.text) = text
  first_start : ∀ token rest, tokens = token :: rest -> token.span.start = 0
  adjacent : ∀ before a b after, tokens = before ++ a :: b :: after -> a.span.stop = b.span.start
  last_stop : ∀ before token, tokens = before ++ [token] -> token.span.stop = text.utf8ByteSize
  start_lt_stop : ∀ token ∈ tokens, token.span.start < token.span.stop
  start_boundary : ∀ token ∈ tokens, Text.boundary token.span.start text.toList = token.span.start
  stop_boundary : ∀ token ∈ tokens, Text.boundary token.span.stop text.toList = token.span.stop
  extract : ∀ token ∈ tokens, String.ofList (token.span.extract text.toList) = token.text
  unflagged : ∀ token ∈ tokens, token.invalid = false
  kind : ∀ token ∈ tokens,
    token.kind ∈ rules.map Rule.name ∨ token.kind = Token.whitespaceKind ∨ token.kind = defaultKind

/-!
# Placed pieces

A token of the scan has its piece with the pieces before it and after it, and
these make up the text.
-/

theorem tokens_place {text : String} {rules : List Rule} {defaultKind : String} {token : Token}
    (h : token ∈ tokens text rules defaultKind) :
    exists before piece after,
      piece ∈ pieces rules defaultKind text.toList ∧
        text.toList = before ++ (piece.chars ++ after) ∧
        token = Token.placed piece.chars piece.kind (Text.byteLength before) := by
  rw [tokens_eq_layOut] at h
  rcases mem_layOut h with ⟨before, piece, after, hsplit, htoken⟩
  refine ⟨before.flatMap Piece.chars, piece, after.flatMap Piece.chars, ?_, ?_, ?_⟩
  · rw [hsplit]
    simp
  · have hchars := pieces_chars rules defaultKind text.toList
    rw [hsplit, List.flatMap_append, List.flatMap_cons] at hchars
    exact hchars.symm
  · rw [htoken, Nat.zero_add]

theorem layOut_texts (start : Nat) (xs : List Piece) :
    ((layOut start xs).map Token.text).flatMap String.toList = xs.flatMap Piece.chars := by
  induction xs generalizing start with
  | nil => rfl
  | cons piece rest ih =>
      rw [layOut, List.map_cons, List.flatMap_cons, List.flatMap_cons, ih]
      simp [Token.placed]

theorem join_tokens (text : String) (rules : List Rule) (defaultKind : String) :
    String.join ((tokens text rules defaultKind).map Token.text) = text := by
  apply String.toList_inj.mp
  rw [String.toList_join, tokens_eq_layOut, layOut_texts, pieces_chars]

theorem layOut_adjacent {start : Nat} {xs : List Piece} {before after : List Token}
    {a b : Token} (h : layOut start xs = before ++ a :: b :: after) :
    a.span.stop = b.span.start := by
  rcases layOut_eq_append h with ⟨ys, zs, _, _, hrest⟩
  match zs, hrest with
  | [], hrest => cases hrest
  | [piece], hrest => cases hrest
  | first :: second :: others, hrest =>
      rw [layOut, layOut, List.cons.injEq, List.cons.injEq] at hrest
      rw [hrest.1, hrest.2.1]
      rfl

theorem layOut_last {start : Nat} {xs : List Piece} {before : List Token} {token : Token}
    (h : layOut start xs = before ++ [token]) :
    token.span.stop = start + Text.byteLength (xs.flatMap Piece.chars) := by
  rcases layOut_eq_append h with ⟨ys, zs, hsplit, _, hrest⟩
  match zs, hrest with
  | [], hrest => cases hrest
  | [piece], hrest =>
      rw [layOut, List.cons.injEq] at hrest
      rw [hrest.1, hsplit]
      simp [Token.placed, Nat.add_assoc]
  | first :: second :: others, hrest => cases hrest

theorem partition_tokens (text : String) (rules : List Rule) (defaultKind : String) :
    Partition text rules defaultKind (tokens text rules defaultKind) where
  text_ne_empty := by
    intro token htoken
    rcases tokens_place htoken with ⟨before, piece, after, hpiece, _, rfl⟩
    intro hempty
    apply pieces_chars_ne_nil hpiece
    simpa [Token.placed] using congrArg String.toList hempty
  joined := join_tokens text rules defaultKind
  first_start := by
    intro token rest h
    rw [tokens_eq_layOut] at h
    cases hpieces : pieces rules defaultKind text.toList with
    | nil =>
        rw [hpieces] at h
        cases h
    | cons piece others =>
        rw [hpieces, layOut, List.cons.injEq] at h
        rw [← h.1]
        rfl
  adjacent := by
    intro before a b after h
    rw [tokens_eq_layOut] at h
    exact layOut_adjacent h
  last_stop := by
    intro before token h
    rw [tokens_eq_layOut] at h
    rw [layOut_last h, pieces_chars, Nat.zero_add, Text.byteLength_toList]
  start_lt_stop := by
    intro token htoken
    rcases tokens_place htoken with ⟨before, piece, after, hpiece, _, rfl⟩
    exact Nat.lt_add_of_pos_right (Text.byteLength_pos (pieces_chars_ne_nil hpiece))
  start_boundary := by
    intro token htoken
    rcases tokens_place htoken with ⟨before, piece, after, _, htext, rfl⟩
    rw [htext]
    exact Text.boundary_byteLength_append before (piece.chars ++ after)
  stop_boundary := by
    intro token htoken
    rcases tokens_place htoken with ⟨before, piece, after, _, htext, rfl⟩
    rw [htext, ← List.append_assoc]
    have hcut := Text.boundary_byteLength_append (before ++ piece.chars) after
    rw [Text.byteLength_append] at hcut
    exact hcut
  extract := by
    intro token htoken
    rcases tokens_place htoken with ⟨before, piece, after, _, htext, rfl⟩
    rw [htext]
    exact congrArg String.ofList (Span.extract_append before piece.chars after)
  unflagged := by
    intro token htoken
    rcases tokens_place htoken with ⟨before, piece, after, _, _, rfl⟩
    rfl
  kind := by
    intro token htoken
    rcases tokens_place htoken with ⟨before, piece, after, hpiece, _, rfl⟩
    exact pieces_kind hpiece

/-!
# Offset arithmetic

The scan once more, with every sum of offsets checked against a limit: where a
token ends, where the match starts and where the scan goes on, both counted in
the whole text, and where the first run of white space and the match end, counted
in the rest.  One sum past the limit and there are no tokens.
-/

def sum? (limit a b : Nat) : Option Nat :=
  if a + b ≤ limit then some (a + b) else none

def placed? (limit : Nat) (cs : List Char) (kind : String) (start : Nat) : Option Token := do
  let stop ← sum? limit start (Text.byteLength cs)
  some { text := String.ofList cs, kind := kind, span := { start := start, stop := stop },
         invalid := false }

/-- The end of a match in the text that was searched. -/
def matchEnd? (limit : Nat) (found : Pattern.Match) : Option Nat :=
  sum? limit (Text.byteLength found.before) (Text.byteLength found.text)

def tokensWithin? (limit : Nat) (rules : List Rule) (defaultKind : String) (start : Nat)
    (cs : List Char) : Option (List Token) :=
  if cs.isEmpty then some []
  else
    match hbest : best? (candidates rules cs) with
    | none => (placed? limit cs defaultKind start).map ([·])
    | some candidate => do
        have _ : candidate.found.after.length < cs.length := candidates_after_lt (best?_mem hbest)
        let _ ← (whitespace? cs).mapM (matchEnd? limit)
        let stop ← matchEnd? limit candidate.found
        let before ← (gap defaultKind candidate.found.before).mapM fun piece =>
          placed? limit piece.chars piece.kind start
        let place ← sum? limit start (Text.byteLength candidate.found.before)
        let token ← placed? limit candidate.found.text candidate.kind place
        let next ← sum? limit start stop
        let rest ← tokensWithin? limit rules defaultKind next candidate.found.after
        some (before ++ token :: rest)
termination_by cs.length

theorem sum?_of_le {limit a b : Nat} (h : a + b ≤ limit) : sum? limit a b = some (a + b) :=
  if_pos h

theorem placed?_of_le {limit start : Nat} {cs : List Char} (kind : String)
    (h : start + Text.byteLength cs ≤ limit) :
    placed? limit cs kind start = some (Token.placed cs kind start) := by
  rw [placed?, sum?_of_le h]
  rfl

theorem readsIn_byteLength {cs : List Char} {found : Pattern.Match} (h : found.ReadsIn cs) :
    Text.byteLength found.before + Text.byteLength found.text + Text.byteLength found.after =
      Text.byteLength cs := by
  rw [← h.parts, Text.byteLength_append, Text.byteLength_append, Nat.add_assoc]

theorem matchEnd?_of_readsIn {limit : Nat} {cs : List Char} {found : Pattern.Match}
    (h : found.ReadsIn cs) (hlimit : Text.byteLength cs ≤ limit) :
    matchEnd? limit found =
      some (Text.byteLength found.before + Text.byteLength found.text) := by
  have hlength := readsIn_byteLength h
  exact sum?_of_le (by omega)

theorem whitespace?_mapM_matchEnd? {limit : Nat} {cs : List Char}
    (hlimit : Text.byteLength cs ≤ limit) :
    exists blankEnd, (whitespace? cs).mapM (matchEnd? limit) = some blankEnd := by
  cases hblank : whitespace? cs with
  | none => exact ⟨none, rfl⟩
  | some found =>
      refine ⟨some (Text.byteLength found.before + Text.byteLength found.text), ?_⟩
      simp [matchEnd?_of_readsIn (whitespace?_eq_some_iff.mp hblank).toReadsIn hlimit]

theorem gap_mapM_placed? {limit start : Nat} (defaultKind : String) {before : List Char}
    (h : start + Text.byteLength before ≤ limit) :
    (gap defaultKind before).mapM
        (fun piece => placed? limit piece.chars piece.kind start) =
      some (layOut start (gap defaultKind before)) := by
  cases before with
  | nil => rfl
  | cons c rest =>
      simp [gap, layOut, placed?_of_le defaultKind h]

/-- No sum is past the limit when the text ends within it. -/
theorem tokensWithin?_eq_layOut {limit : Nat} (rules : List Rule) (defaultKind : String)
    {start : Nat} {cs : List Char} (h : start + Text.byteLength cs ≤ limit) :
    tokensWithin? limit rules defaultKind start cs =
      some (layOut start (pieces rules defaultKind cs)) := by
  fun_induction pieces rules defaultKind cs generalizing start with
  | case1 cs hempty =>
      rw [tokensWithin?, if_pos hempty]
      rfl
  | case2 cs hcs hbest =>
      rw [tokensWithin?, if_neg hcs]
      split
      · rw [placed?_of_le defaultKind h]
        rfl
      · rename_i candidate hsome
        rw [hbest] at hsome
        cases hsome
  | case3 cs hcs candidate hbest hlt ih =>
      have hreads := candidates_readsIn (best?_mem hbest)
      have hlength := readsIn_byteLength hreads
      have hlimit : Text.byteLength cs ≤ limit := by omega
      rcases whitespace?_mapM_matchEnd? hlimit with ⟨blankEnd, hblank⟩
      have hbefore : start + Text.byteLength candidate.found.before ≤ limit := by omega
      have htext : start + Text.byteLength candidate.found.before +
          Text.byteLength candidate.found.text ≤ limit := by omega
      have hnext : start + (Text.byteLength candidate.found.before +
          Text.byteLength candidate.found.text) ≤ limit := by omega
      have hend : start + (Text.byteLength candidate.found.before +
          Text.byteLength candidate.found.text) + Text.byteLength candidate.found.after ≤
            limit := by omega
      rw [tokensWithin?, if_neg hcs]
      split
      · rename_i hnone
        rw [hbest] at hnone
        cases hnone
      · rename_i other hother
        rw [hbest] at hother
        cases hother
        simp [hblank, matchEnd?_of_readsIn hreads hlimit, gap_mapM_placed? defaultKind hbefore,
          sum?_of_le hbefore, placed?_of_le _ htext, sum?_of_le hnext, ih hend, layOut_append,
          gap_chars, layOut, Nat.add_assoc]

theorem tokens_partition_text (text : String) (rules : List Rule) (defaultKind : String) :
    Partition text rules defaultKind (tokens text rules defaultKind) ∧
      tokensWithin? text.utf8ByteSize rules defaultKind 0 text.toList =
        some (tokens text rules defaultKind) := by
  constructor
  · exact partition_tokens text rules defaultKind
  · rw [tokens_eq_layOut]
    have hsize : 0 + Text.byteLength text.toList = text.utf8ByteSize := by
      rw [Nat.zero_add, Text.byteLength_toList]
    exact tokensWithin?_eq_layOut rules defaultKind (Nat.le_of_eq hsize)

end Scan
end FieldGrammar
