import FieldGrammar.Proofs.Builtin.Lexemes
import FieldGrammar.Proofs.Scan.Pieces

/-!
# Recognition of the built-in lexemes

The built-in patterns are followed through a text.  What they match is a lexeme,
and a lexeme that the text cannot prolong is cut off as one piece.
-/

namespace FieldGrammar
namespace Builtin

open Pattern

/-!
# Names

After the first letter, the pattern goes on reading letters, or it reads the other
characters of a name; both ways lead to the same end.
-/

def letterThread : Thread :=
  [.again (.read letter) true, .meet (.times (.read identifierPart) 0 none true)]

def partThread : Thread :=
  [.again (.read identifierPart) true]

theorem frontier_name_start (after : Option Char) :
    identifierPattern.expr.frontier [[.meet identifierPattern.expr]] none after =
      { waiting := [(letter, letterThread)], finished := false } := rfl

theorem frontier_name_later (c : Char) (after : Option Char) :
    identifierPattern.expr.frontier [[.meet identifierPattern.expr]] (some c) after =
      Frontier.empty := rfl

theorem frontier_letterThread (before after : Option Char) :
    identifierPattern.expr.frontier [letterThread] before after =
      { waiting := [(letter, letterThread), (identifierPart, partThread)],
        finished := true } := rfl

theorem frontier_bothThreads (before after : Option Char) :
    identifierPattern.expr.frontier [letterThread, partThread] before after =
      { waiting := [(letter, letterThread), (identifierPart, partThread)],
        finished := true } := rfl

theorem follow_partThread (before : Option Char) (best : Option Nat) (taken : Nat)
    (cs : List Char) :
    identifierPattern.expr.follow [partThread] before best taken cs =
      some (taken + (cs.takeWhile isNamePart).length) := by
  have hset : identifierPart.contains = isNamePart := funext contains_identifierPart
  rw [partThread, Expr.follow_again, hset]

theorem follow_bothThreads (before : Option Char) (best : Option Nat) (taken : Nat)
    (cs : List Char) :
    identifierPattern.expr.follow [letterThread, partThread] before best taken cs =
      some (taken + (cs.takeWhile isNamePart).length) := by
  induction cs generalizing before best taken with
  | nil => exact Expr.follow_nil (frontier_bothThreads before none)
  | cons c rest ih =>
      have hreached := frontier_bothThreads before (some c)
      by_cases hpart : isNamePart c = true
      · rw [List.takeWhile_cons_of_pos hpart, List.length_cons, ← Nat.add_assoc,
          Nat.add_right_comm]
        by_cases halpha : c.isAlpha = true
        · rw [← ih (some c) (some taken) (taken + 1)]
          apply Expr.follow_read hreached
          simp [Frontier.advance, contains_letter, contains_identifierPart, halpha, hpart]
        · rw [← follow_partThread (some c) (some taken) (taken + 1)]
          apply Expr.follow_read hreached
          simp [Frontier.advance, contains_letter, contains_identifierPart, halpha, hpart]
      · have halpha : ¬ c.isAlpha = true := fun h => hpart (isNamePart_of_isAlpha h)
        rw [List.takeWhile_cons_of_neg hpart]
        apply Expr.follow_stop hreached
        simp [Frontier.advance, contains_letter, contains_identifierPart, halpha, hpart]

theorem preferred?_name_later (c : Char) (cs : List Char) :
    identifierPattern.expr.preferred? (some c) cs = none := by
  cases cs with
  | nil => exact Expr.follow_nil (frontier_name_later c none)
  | cons d rest => exact Expr.follow_stop (frontier_name_later c (some d)) rfl

theorem preferred?_name_nil : identifierPattern.expr.preferred? none [] = none :=
  Expr.follow_nil (frontier_name_start none)

theorem preferred?_name_cons (c : Char) (rest : List Char) :
    identifierPattern.expr.preferred? none (c :: rest) =
      if c.isAlpha then some (1 + (rest.takeWhile isNamePart).length) else none := by
  have hreached := frontier_name_start (some c)
  by_cases halpha : c.isAlpha = true
  · rw [if_pos halpha, ← follow_bothThreads (some c) none 1 rest]
    have hsame : identifierPattern.expr.follow [letterThread] (some c) none 1 rest =
        identifierPattern.expr.follow [letterThread, partThread] (some c) none 1 rest := by
      apply Expr.follow_congr
      intro after
      rw [frontier_letterThread, frontier_bothThreads]
    rw [← hsame]
    apply Expr.follow_read hreached
    simp [Frontier.advance, contains_letter, halpha]
  · rw [if_neg halpha]
    apply Expr.follow_stop hreached
    simp [Frontier.advance, contains_letter, halpha]

/-!
# Comparisons

After the first character of an operator, an equals sign is read if it follows.
-/

theorem frontier_comparison_start (before after : Option Char) :
    comparisonPattern.expr.frontier [[.meet comparisonPattern.expr]] before after =
      { waiting :=
          [(.range '<' '<', [.meet (symbol '=')]), (.range '>' '>', [.meet (symbol '=')]),
           (.range '=' '=', []), (.range '<' '<', []), (.range '>' '>', [])],
        finished := false } := rfl

theorem frontier_comparison_second (before after : Option Char) :
    comparisonPattern.expr.frontier [[.meet (symbol '=')], []] before after =
      { waiting := [(.range '=' '=', [])], finished := true } := rfl

theorem follow_comparison_second (before : Option Char) (cs : List Char) :
    comparisonPattern.expr.follow [[.meet (symbol '=')], []] before none 1 cs =
      some (if cs.head? = some '=' then 2 else 1) := by
  cases cs with
  | nil => exact Expr.follow_nil (frontier_comparison_second before none)
  | cons c rest =>
      have hreached := frontier_comparison_second before (some c)
      by_cases hequal : c = '='
      · rw [List.head?_cons, if_pos (congrArg some hequal),
          ← Expr.follow_done comparisonPattern.expr (some c) (some 1) 2 rest]
        apply Expr.follow_read hreached
        simp [Frontier.advance, contains_symbol, hequal]
      · rw [List.head?_cons, if_neg (by simpa using hequal)]
        apply Expr.follow_stop hreached
        simp [Frontier.advance, contains_symbol, hequal]

theorem preferred?_comparison_nil (before : Option Char) :
    comparisonPattern.expr.preferred? before [] = none :=
  Expr.follow_nil (frontier_comparison_start before none)

theorem preferred?_comparison_cons (before : Option Char) (c : Char) (rest : List Char) :
    comparisonPattern.expr.preferred? before (c :: rest) =
      if c = '=' then some 1
      else if c = '<' ∨ c = '>' then some (if rest.head? = some '=' then 2 else 1)
      else none := by
  have hreached := frontier_comparison_start before (some c)
  by_cases hequal : c = '='
  · rw [if_pos hequal, ← Expr.follow_done comparisonPattern.expr (some c) none 1 rest]
    apply Expr.follow_read hreached
    simp [Frontier.advance, contains_symbol, hequal]
  · rw [if_neg hequal]
    by_cases hangle : c = '<' ∨ c = '>'
    · rw [if_pos hangle, ← follow_comparison_second (some c)]
      apply Expr.follow_read hreached
      rcases hangle with rfl | rfl <;> simp [Frontier.advance, contains_symbol]
    · rw [if_neg hangle]
      rw [not_or] at hangle
      apply Expr.follow_stop hreached
      simp [Frontier.advance, contains_symbol, hequal, hangle.1, hangle.2]

/-!
# Values

A number is a greedy repetition.  After an opening quote, the only way to finish
is the next quote.
-/

def quoteThread : Thread :=
  [.again (.read (.compl (.range '"' '"'))) true, .meet (symbol '"')]

def openThread : Thread :=
  [.meet (.seq (.times (.read (.compl (.range '"' '"'))) 0 none true) (symbol '"'))]

theorem frontier_value_start (before after : Option Char) :
    valuePattern.expr.frontier [[.meet valuePattern.expr]] before after =
      { waiting :=
          [(.range '0' '9', [.again (.read (.range '0' '9')) true]),
           (.range '"' '"', openThread)],
        finished := false } := rfl

theorem frontier_openThread (before after : Option Char) :
    valuePattern.expr.frontier [openThread] before after =
      valuePattern.expr.frontier [quoteThread] before after := rfl

theorem frontier_quoteThread (before after : Option Char) :
    valuePattern.expr.frontier [quoteThread] before after =
      { waiting := [(.compl (.range '"' '"'), quoteThread), (.range '"' '"', [])],
        finished := false } := rfl

/-- The length of what is left of a quoted text, if the text ends. -/
def quotedLength? : List Char -> Option Nat
  | [] => none
  | c :: rest => if c = '"' then some 1 else (quotedLength? rest).map (· + 1)

theorem follow_quoteThread (before : Option Char) (taken : Nat) (cs : List Char) :
    valuePattern.expr.follow [quoteThread] before none taken cs =
      (quotedLength? cs).map (taken + ·) := by
  induction cs generalizing before taken with
  | nil => exact Expr.follow_nil (frontier_quoteThread before none)
  | cons c rest ih =>
      have hreached := frontier_quoteThread before (some c)
      by_cases hquote : c = '"'
      · rw [quotedLength?, if_pos hquote, Option.map_some,
          ← Expr.follow_done valuePattern.expr (some c) none (taken + 1) rest]
        apply Expr.follow_read hreached
        simp [Frontier.advance, contains_notSymbol, contains_symbol, hquote]
      · have hshift : (quotedLength? (c :: rest)).map (taken + ·) =
            (quotedLength? rest).map (taken + 1 + ·) := by
          rw [quotedLength?, if_neg hquote, Option.map_map]
          congr 1
          funext n
          simp only [Function.comp_apply]
          omega
        rw [hshift, ← ih (some c) (taken + 1)]
        apply Expr.follow_read hreached
        simp [Frontier.advance, contains_notSymbol, contains_symbol, hquote]

theorem preferred?_value_nil (before : Option Char) :
    valuePattern.expr.preferred? before [] = none :=
  Expr.follow_nil (frontier_value_start before none)

theorem preferred?_value_cons (before : Option Char) (c : Char) (rest : List Char) :
    valuePattern.expr.preferred? before (c :: rest) =
      if c.isDigit then some (1 + (rest.takeWhile Char.isDigit).length)
      else if c = '"' then (quotedLength? rest).map (1 + ·)
      else none := by
  have hreached := frontier_value_start before (some c)
  by_cases hdigit : c.isDigit = true
  · have hquote : ¬ c = '"' := by
      rintro rfl
      cases hdigit
    have hset : (CharSet.range '0' '9').contains = Char.isDigit := funext contains_digit
    rw [if_pos hdigit, ← hset, ← Expr.follow_again valuePattern.expr _ (some c) none 1 rest]
    apply Expr.follow_read hreached
    simp [Frontier.advance, contains_digit, contains_symbol, hdigit, hquote]
  · rw [if_neg hdigit]
    by_cases hquote : c = '"'
    · have hopen : valuePattern.expr.follow [openThread] (some c) none 1 rest =
          valuePattern.expr.follow [quoteThread] (some c) none 1 rest :=
        Expr.follow_congr (frontier_openThread (some c)) none 1 rest
      rw [if_pos hquote, ← follow_quoteThread (some c) 1 rest, ← hopen]
      apply Expr.follow_read hreached
      simp [Frontier.advance, contains_digit, contains_symbol, hquote]
    · rw [if_neg hquote]
      apply Expr.follow_stop hreached
      simp [Frontier.advance, contains_digit, contains_symbol, hdigit, hquote]

/-!
# What is matched is a lexeme
-/

theorem take_takeWhile_length (p : Char -> Bool) (cs : List Char) :
    cs.take (cs.takeWhile p).length = cs.takeWhile p :=
  (List.prefix_iff_eq_take.mp (List.takeWhile_prefix p)).symm

theorem isName_of_preferred? {before : Option Char} {cs : List Char} {n : Nat}
    (h : identifierPattern.expr.preferred? before cs = some n) : IsName (cs.take n) := by
  cases before with
  | some c =>
      rw [preferred?_name_later] at h
      cases h
  | none =>
      cases cs with
      | nil =>
          rw [preferred?_name_nil] at h
          cases h
      | cons c rest =>
          rw [preferred?_name_cons] at h
          split at h
          · rename_i halpha
            cases h
            refine ⟨c, rest.takeWhile isNamePart, ?_, halpha, ?_⟩
            · rw [Nat.add_comm, List.take_succ_cons, take_takeWhile_length]
            · intro d hd
              exact List.all_eq_true.mp List.all_takeWhile d hd
          · cases h

theorem isComparison_of_preferred? {before : Option Char} {cs : List Char} {n : Nat}
    (h : comparisonPattern.expr.preferred? before cs = some n) : IsComparison (cs.take n) := by
  cases cs with
  | nil =>
      rw [preferred?_comparison_nil] at h
      cases h
  | cons c rest =>
      rw [preferred?_comparison_cons] at h
      split at h
      · rename_i hequal
        cases h
        simp [IsComparison, hequal]
      · split at h
        · rename_i hangle
          cases h
          split
          · rename_i hnext
            cases rest with
            | nil => cases hnext
            | cons d others =>
                cases hnext
                rcases hangle with rfl | rfl <;> simp [IsComparison]
          · rcases hangle with rfl | rfl <;> simp [IsComparison]
        · cases h

theorem quotedLength?_take {cs : List Char} {n : Nat} (h : quotedLength? cs = some n) :
    exists inner, cs.take n = inner ++ ['"'] ∧ '"' ∉ inner := by
  induction cs generalizing n with
  | nil => cases h
  | cons c rest ih =>
      rw [quotedLength?] at h
      split at h
      · rename_i hquote
        cases h
        exact ⟨[], by simp [hquote], by simp⟩
      · rename_i hquote
        rcases Option.map_eq_some_iff.mp h with ⟨m, hm, rfl⟩
        rcases ih hm with ⟨inner, htake, hinner⟩
        refine ⟨c :: inner, ?_, ?_⟩
        · rw [List.take_succ_cons, htake, List.cons_append]
        · rw [List.mem_cons, not_or]
          exact ⟨fun heq => hquote heq.symm, hinner⟩

theorem isValue_of_preferred? {before : Option Char} {cs : List Char} {n : Nat}
    (h : valuePattern.expr.preferred? before cs = some n) : IsValue (cs.take n) := by
  cases cs with
  | nil =>
      rw [preferred?_value_nil] at h
      cases h
  | cons c rest =>
      rw [preferred?_value_cons] at h
      split at h
      · rename_i hdigit
        cases h
        rw [Nat.add_comm, List.take_succ_cons, take_takeWhile_length]
        refine Or.inl ⟨by simp, ?_⟩
        intro d hd
        rcases List.mem_cons.mp hd with rfl | hd
        · exact hdigit
        · exact List.all_eq_true.mp List.all_takeWhile d hd
      · split at h
        · rename_i hquote
          rcases Option.map_eq_some_iff.mp h with ⟨m, hm, rfl⟩
          rcases quotedLength?_take hm with ⟨inner, htake, hinner⟩
          refine Or.inr ⟨inner, ?_, hinner⟩
          rw [Nat.add_comm, List.take_succ_cons, htake, hquote]
        · cases h

theorem lexeme_of_candidate {cs : List Char} {candidate : Scan.Candidate}
    (h : candidate ∈ Scan.candidates rules cs) : Lexeme candidate.kind candidate.found.text := by
  rcases Scan.mem_candidates.mp h with ⟨rule, hrule, hname, hfind⟩ | ⟨hkind, hblank⟩
  · rcases Expr.find?_preferred hfind with ⟨before, n, hpreferred, htext⟩
    rw [← hname, htext]
    simp only [rules, List.mem_cons, List.not_mem_nil, or_false] at hrule
    rcases hrule with rfl | rfl | rfl
    · exact Lexeme.name (isName_of_preferred? hpreferred)
    · exact Lexeme.comparison (isComparison_of_preferred? hpreferred)
    · exact Lexeme.value (isValue_of_preferred? hpreferred)
  · rw [hkind]
    have hrun := Scan.whitespace?_eq_some_iff.mp hblank
    exact Lexeme.blank hrun.text_ne_nil hrun.text_blank

theorem lexeme_of_piece {cs : List Char} {piece : Scan.Piece}
    (h : piece ∈ Scan.pieces rules Token.unknownKind cs)
    (hkind : piece.kind ≠ Token.unknownKind) : Lexeme piece.kind piece.chars := by
  rcases Scan.mem_pieces h with ⟨hunknown, _⟩ | ⟨rest, candidate, hcandidate, rfl⟩
  · exact absurd hunknown hkind
  · exact lexeme_of_candidate hcandidate

/-!
# A lexeme is matched

A lexeme at the front of a text is cut off as one piece, if the text after it does
not go on with a character that would be read as well.
-/

def StopsAt (p : Char -> Bool) (rest : List Char) : Prop :=
  forall c others, rest = c :: others -> p c = false

theorem takeWhile_append_of_stopsAt {p : Char -> Bool} {text rest : List Char}
    (htext : forall c, c ∈ text -> p c = true) (hrest : StopsAt p rest) :
    (text ++ rest).takeWhile p = text := by
  have hnil : rest.takeWhile p = [] := by
    cases rest with
    | nil => rfl
    | cons c others => exact List.takeWhile_cons_of_neg (by simp [hrest c others rfl])
  rw [List.takeWhile_append_of_pos htext, hnil, List.append_nil]

theorem pieces_of_lexeme {kind : String} {text rest : List Char} (htext : Lexeme kind text)
    (hmem : { kind := kind, found := { before := [], text := text, after := rest } } ∈
      Scan.candidates rules (text ++ rest)) :
    Scan.pieces rules Token.unknownKind (text ++ rest) =
      { chars := text, kind := kind } :: Scan.pieces rules Token.unknownKind rest := by
  have honly : forall other, other ∈ Scan.candidates rules (text ++ rest) ->
      other.found.before = [] ->
        other = { kind := kind, found := { before := [], text := text, after := rest } } := by
    intro other hother hfront
    have hparts := (Scan.candidates_readsIn hother).parts
    rw [hfront, List.nil_append] at hparts
    have hkind := lexeme_kind_unique (lexeme_of_candidate hother) htext hparts
    exact Scan.candidates_eq_of_kind config.wellFormed.names_nodup
      config.wellFormed.names_ne_whitespace hother hmem hkind
  rw [Scan.pieces_of_some (Scan.best?_eq_of_front hmem rfl honly)]
  rfl

theorem mem_candidates_of_rule (rule : Rule) (hrule : rule ∈ rules) {text rest : List Char}
    (htext : text ≠ [])
    (h : rule.pattern.expr.preferred? none (text ++ rest) = some text.length) :
    { kind := rule.name, found := { before := [], text := text, after := rest } } ∈
      Scan.candidates rules (text ++ rest) := by
  apply Scan.mem_candidates.mpr
  exact Or.inl ⟨rule, hrule, rfl, Expr.find?_of_preferred htext h⟩

theorem pieces_name {text rest : List Char} (htext : IsName text)
    (hrest : StopsAt isNamePart rest) :
    Scan.pieces rules Token.unknownKind (text ++ rest) =
      { chars := text, kind := identifierKind } ::
        Scan.pieces rules Token.unknownKind rest := by
  have hlexeme := Lexeme.name htext
  rcases htext with ⟨c, others, rfl, halpha, hothers⟩
  apply pieces_of_lexeme hlexeme
  apply mem_candidates_of_rule identifierRule (by simp [rules]) (by simp)
  show identifierPattern.expr.preferred? none (c :: (others ++ rest)) = _
  rw [preferred?_name_cons, if_pos halpha, takeWhile_append_of_stopsAt hothers hrest,
    Nat.add_comm]
  rfl

theorem pieces_comparison {text rest : List Char} (htext : IsComparison text)
    (hrest : StopsAt (· == '=') rest) :
    Scan.pieces rules Token.unknownKind (text ++ rest) =
      { chars := text, kind := comparisonKind } ::
        Scan.pieces rules Token.unknownKind rest := by
  have hlexeme := Lexeme.comparison htext
  apply pieces_of_lexeme hlexeme
  apply mem_candidates_of_rule comparisonRule (by simp [rules]) (lexeme_ne_nil hlexeme)
  show comparisonPattern.expr.preferred? none (text ++ rest) = _
  have hnext : rest.head? ≠ some '=' := by
    cases rest with
    | nil => simp
    | cons c others => simpa using hrest c others rfl
  simp only [IsComparison, List.mem_cons, List.not_mem_nil, or_false] at htext
  rcases htext with rfl | rfl | rfl | rfl | rfl <;>
    simp [preferred?_comparison_cons, hnext]

theorem quotedLength?_append {inner : List Char} (hinner : '"' ∉ inner) (rest : List Char) :
    quotedLength? (inner ++ '"' :: rest) = some (inner.length + 1) := by
  induction inner with
  | nil => rfl
  | cons c others ih =>
      rw [List.mem_cons, not_or] at hinner
      rw [List.cons_append, quotedLength?, if_neg (Ne.symm hinner.1), ih hinner.2]
      rfl

theorem preferred?_value {text rest : List Char} (htext : IsValue text)
    (hrest : StopsAt Char.isDigit rest) :
    valuePattern.expr.preferred? none (text ++ rest) = some text.length := by
  rcases htext with ⟨hne, hdigits⟩ | ⟨inner, rfl, hinner⟩
  · cases text with
    | nil => exact absurd rfl hne
    | cons c others =>
        rw [List.forall_mem_cons] at hdigits
        rw [List.cons_append, preferred?_value_cons, if_pos hdigits.1,
          takeWhile_append_of_stopsAt hdigits.2 hrest, Nat.add_comm]
        rfl
  · have hquoted := quotedLength?_append hinner rest
    rw [List.cons_append, List.append_assoc, preferred?_value_cons, if_neg (by decide), if_pos rfl]
    show (quotedLength? (inner ++ '"' :: rest)).map (1 + ·) = _
    rw [hquoted]
    simp [Nat.add_comm]

theorem pieces_value {text rest : List Char} (htext : IsValue text)
    (hrest : StopsAt Char.isDigit rest) :
    Scan.pieces rules Token.unknownKind (text ++ rest) =
      { chars := text, kind := valueKind } :: Scan.pieces rules Token.unknownKind rest := by
  have hlexeme := Lexeme.value htext
  apply pieces_of_lexeme hlexeme
  apply mem_candidates_of_rule valueRule (by simp [rules]) (lexeme_ne_nil hlexeme)
  exact preferred?_value htext hrest

theorem whitespace?_blank_append {text rest : List Char} (hne : text ≠ []) (htext : IsBlank text)
    (hrest : StopsAt Character.isWhiteSpace rest) :
    Scan.whitespace? (text ++ rest) = some { before := [], text := text, after := rest } :=
  Scan.whitespace?_eq_some_iff.mpr
    { parts := rfl
      text_ne_nil := hne
      before_solid := by simp
      text_blank := htext
      after_solid := hrest }

theorem pieces_blank {text rest : List Char} (htext : IsBlank text)
    (hrest : StopsAt Character.isWhiteSpace rest) :
    Scan.pieces rules Token.unknownKind (text ++ rest) =
      Scan.gap Token.whitespaceKind text ++ Scan.pieces rules Token.unknownKind rest := by
  cases text with
  | nil => rfl
  | cons c others =>
      have hne : c :: others ≠ [] := by simp
      apply pieces_of_lexeme (Lexeme.blank hne htext)
      apply Scan.mem_candidates.mpr
      exact Or.inr ⟨rfl, whitespace?_blank_append hne htext hrest⟩

end Builtin
end FieldGrammar
