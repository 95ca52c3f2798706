import Mathlib.Order.Bounds.Defs
import FieldGrammar.Proofs.Scan.Pieces

/-!
# The leftmost match, and the earlier rule on ties

What the scan takes at a place is told here without the search for it: of all
matches in the rest of the text the one that starts first, and of those that start
there together the one of the first rule.  Tokens are related to a text place by
place in this way, and the tokens of a scan are the only ones that are so related.
-/

namespace FieldGrammar
namespace Scan

/-!
# What is taken
-/

/-- The match of the rule in the text starts at the byte offset. -/
def StartsAt (rule : Rule) (cs : List Char) (offset : Nat) : Prop :=
  exists found, rule.find? cs = some found ∧ Text.byteLength found.before = offset

/-- A match of one of the rules, or the first run of white space, starts at the byte offset. -/
def MatchStart (rules : List Rule) (cs : List Char) (offset : Nat) : Prop :=
  (exists rule, rule ∈ rules ∧ StartsAt rule cs offset) ∨
    exists run, FirstRun cs run ∧ Text.byteLength run.before = offset

/-- What is taken at a byte offset: the match of the first rule that has one there, and white
space where no rule has one. -/
inductive TakenAt (rules : List Rule) (cs : List Char) (offset : Nat) : Candidate -> Prop where
  | rule {earlier later : List Rule} {rule : Rule} {found : Pattern.Match} :
      rules = earlier ++ rule :: later ->
      (forall other, other ∈ earlier -> ¬ StartsAt other cs offset) ->
      rule.find? cs = some found ->
      Text.byteLength found.before = offset ->
      TakenAt rules cs offset { kind := rule.name, found := found }
  | whitespace {run : Pattern.Match} :
      (forall rule, rule ∈ rules -> ¬ StartsAt rule cs offset) ->
      FirstRun cs run ->
      Text.byteLength run.before = offset ->
      TakenAt rules cs offset { kind := Token.whitespaceKind, found := run }

/-!
# The search finds what is taken

The candidates stand in the order of the rules, with white space last, so the first
of the leftmost ones belongs to the first rule that starts there.
-/

theorem matchStart_iff {rules : List Rule} {cs : List Char} {offset : Nat} :
    MatchStart rules cs offset <->
      exists candidate, candidate ∈ candidates rules cs ∧
        Text.byteLength candidate.found.before = offset := by
  constructor
  · rintro (⟨rule, hrule, found, hfound, hoffset⟩ | ⟨run, hrun, hoffset⟩)
    · exact ⟨{ kind := rule.name, found := found },
        mem_candidates.mpr (Or.inl ⟨rule, hrule, rfl, hfound⟩), hoffset⟩
    · exact ⟨{ kind := Token.whitespaceKind, found := run },
        mem_candidates.mpr (Or.inr ⟨rfl, whitespace?_eq_some_iff.mpr hrun⟩), hoffset⟩
  · rintro ⟨candidate, hmem, hoffset⟩
    rcases mem_candidates.mp hmem with ⟨rule, hrule, _, hfound⟩ | ⟨_, hblank⟩
    · exact Or.inl ⟨rule, hrule, candidate.found, hfound, hoffset⟩
    · exact Or.inr ⟨candidate.found, whitespace?_eq_some_iff.mp hblank, hoffset⟩

theorem candidates_le_iff {rules : List Rule} {cs : List Char} {a b : Candidate}
    (ha : a ∈ candidates rules cs) (hb : b ∈ candidates rules cs) :
    a.found.before.length ≤ b.found.before.length <->
      Text.byteLength a.found.before ≤ Text.byteLength b.found.before := by
  apply Text.length_le_iff_byteLength_le
  rw [(candidates_readsIn ha).parts, (candidates_readsIn hb).parts]

/-- The candidates of the rules alone. -/
def ruleCandidates (rules : List Rule) (cs : List Char) : List Candidate :=
  rules.filterMap fun rule => (rule.find? cs).map (Candidate.mk rule.name)

theorem candidates_eq (rules : List Rule) (cs : List Char) :
    candidates rules cs = ruleCandidates rules cs ++
      ((whitespace? cs).map (Candidate.mk Token.whitespaceKind)).toList := rfl

theorem ruleCandidates_append (earlier later : List Rule) (cs : List Char) :
    ruleCandidates (earlier ++ later) cs = ruleCandidates earlier cs ++ ruleCandidates later cs :=
  List.filterMap_append

theorem mem_ruleCandidates {rules : List Rule} {cs : List Char} {candidate : Candidate} :
    candidate ∈ ruleCandidates rules cs <->
      exists rule, rule ∈ rules ∧ rule.name = candidate.kind ∧
        rule.find? cs = some candidate.found := by
  cases candidate with
  | mk kind found => simp [ruleCandidates, and_comm]

theorem ruleCandidates_startsAt_iff {rules : List Rule} {cs : List Char} {offset : Nat} :
    (forall candidate, candidate ∈ ruleCandidates rules cs ->
        Text.byteLength candidate.found.before ≠ offset) <->
      forall rule, rule ∈ rules -> ¬ StartsAt rule cs offset := by
  constructor
  · rintro h rule hrule ⟨found, hfound, hoffset⟩
    exact h { kind := rule.name, found := found }
      (mem_ruleCandidates.mpr ⟨rule, hrule, rfl, hfound⟩) hoffset
  · intro h candidate hmem hoffset
    rcases mem_ruleCandidates.mp hmem with ⟨rule, hrule, _, hfound⟩
    exact h rule hrule ⟨candidate.found, hfound, hoffset⟩

theorem candidates_cons_of_none {rule : Rule} {cs : List Char} (h : rule.find? cs = none)
    (rules : List Rule) : candidates (rule :: rules) cs = candidates rules cs := by
  simp [candidates, h]

theorem candidates_cons_of_some {rule : Rule} {cs : List Char} {found : Pattern.Match}
    (h : rule.find? cs = some found) (rules : List Rule) :
    candidates (rule :: rules) cs =
      { kind := rule.name, found := found } :: candidates rules cs := by
  simp [candidates, h]

theorem not_startsAt_of_none {rule : Rule} {cs : List Char} (h : rule.find? cs = none)
    (offset : Nat) : ¬ StartsAt rule cs offset := by
  simp [StartsAt, h]

theorem startsAt_iff_of_some {rule : Rule} {cs : List Char} {found : Pattern.Match}
    (h : rule.find? cs = some found) {offset : Nat} :
    StartsAt rule cs offset <-> Text.byteLength found.before = offset := by
  simp [StartsAt, h]

theorem takenAt_cons {rules : List Rule} {cs : List Char} {offset : Nat} {candidate : Candidate}
    {rule : Rule} (hrule : ¬ StartsAt rule cs offset) (h : TakenAt rules cs offset candidate) :
    TakenAt (rule :: rules) cs offset candidate := by
  cases h with
  | rule hrules hearlier hfound hoffset =>
      rename_i earlier later other found
      have hrules' : rule :: rules = (rule :: earlier) ++ other :: later := by
        rw [hrules]
        rfl
      exact TakenAt.rule hrules' (List.forall_mem_cons.mpr ⟨hrule, hearlier⟩) hfound hoffset
  | whitespace hrules hrun hoffset =>
      exact TakenAt.whitespace (List.forall_mem_cons.mpr ⟨hrule, hrules⟩) hrun hoffset

/-- The first candidate at an offset comes from the first rule there, rule by rule. -/
theorem takenAt_of_split {rules : List Rule} {cs : List Char} {offset : Nat}
    {candidate : Candidate} {earlier later : List Candidate}
    (hsplit : candidates rules cs = earlier ++ candidate :: later)
    (hoffset : Text.byteLength candidate.found.before = offset)
    (hearlier : forall other, other ∈ earlier -> Text.byteLength other.found.before ≠ offset) :
    TakenAt rules cs offset candidate := by
  induction rules generalizing earlier with
  | nil =>
      cases hblank : whitespace? cs with
      | none => simp [candidates, hblank] at hsplit
      | some run =>
          have hone : [Candidate.mk Token.whitespaceKind run] = earlier ++ candidate :: later := by
            rw [← hsplit, candidates, hblank]
            rfl
          cases earlier with
          | nil =>
              cases hone
              exact TakenAt.whitespace (by simp) (whitespace?_eq_some_iff.mp hblank) hoffset
          | cons first others => simp at hone
  | cons rule rest ih =>
      cases hfound : rule.find? cs with
      | none =>
          rw [candidates_cons_of_none hfound] at hsplit
          exact takenAt_cons (not_startsAt_of_none hfound offset) (ih hsplit hearlier)
      | some found =>
          rw [candidates_cons_of_some hfound] at hsplit
          cases earlier with
          | nil =>
              cases hsplit
              exact TakenAt.rule (List.nil_append _).symm (by simp) hfound hoffset
          | cons first others =>
              rw [List.cons_append, List.cons.injEq] at hsplit
              rw [List.forall_mem_cons, ← hsplit.1] at hearlier
              apply takenAt_cons _ (ih hsplit.2 hearlier.2)
              rw [startsAt_iff_of_some hfound]
              exact hearlier.1

/-- What is taken at an offset is the first candidate that starts there. -/
theorem takenAt_iff {rules : List Rule} {cs : List Char} {offset : Nat} {candidate : Candidate} :
    TakenAt rules cs offset candidate <->
      exists earlier later, candidates rules cs = earlier ++ candidate :: later ∧
        Text.byteLength candidate.found.before = offset ∧
        (forall other, other ∈ earlier -> Text.byteLength other.found.before ≠ offset) := by
  constructor
  · intro h
    cases h with
    | rule hrules hearlier hfound hoffset =>
        rename_i earlier later rule found
        refine ⟨ruleCandidates earlier cs, ruleCandidates later cs ++
          ((whitespace? cs).map (Candidate.mk Token.whitespaceKind)).toList, ?_, hoffset,
          ruleCandidates_startsAt_iff.mpr hearlier⟩
        have hrule : ruleCandidates (rule :: later) cs =
            { kind := rule.name, found := found } :: ruleCandidates later cs := by
          simp [ruleCandidates, hfound]
        rw [candidates_eq, hrules, ruleCandidates_append, hrule, List.append_assoc]
        rfl
    | whitespace hrules hrun hoffset =>
        refine ⟨ruleCandidates rules cs, [], ?_, hoffset, ruleCandidates_startsAt_iff.mpr hrules⟩
        rw [candidates_eq, whitespace?_eq_some_iff.mpr hrun]
        rfl
  · rintro ⟨earlier, later, hsplit, hoffset, hearlier⟩
    exact takenAt_of_split hsplit hoffset hearlier

theorem isLeast_matchStart_iff {rules : List Rule} {cs : List Char} {candidate : Candidate}
    (hmem : candidate ∈ candidates rules cs) :
    IsLeast { offset | MatchStart rules cs offset } (Text.byteLength candidate.found.before) <->
      forall other, other ∈ candidates rules cs ->
        candidate.found.before.length ≤ other.found.before.length := by
  constructor
  · intro h other hother
    rw [candidates_le_iff hmem hother]
    exact h.2 (matchStart_iff.mpr ⟨other, hother, rfl⟩)
  · intro h
    refine ⟨matchStart_iff.mpr ⟨candidate, hmem, rfl⟩, ?_⟩
    intro offset hstart
    rcases matchStart_iff.mp hstart with ⟨other, hother, rfl⟩
    exact (candidates_le_iff hmem hother).mp (h other hother)

/-- The search takes the first of the matches that start leftmost. -/
theorem best?_candidates_iff {rules : List Rule} {cs : List Char} {candidate : Candidate} :
    best? (candidates rules cs) = some candidate <->
      exists offset, IsLeast { offset | MatchStart rules cs offset } offset ∧
        TakenAt rules cs offset candidate := by
  constructor
  · intro h
    have hmem := best?_mem h
    refine ⟨_, (isLeast_matchStart_iff hmem).mpr fun other => best?_le h, takenAt_iff.mpr ?_⟩
    rcases best?_eq_some_iff.mp h with ⟨earlier, later, hsplit, hearlier, _⟩
    refine ⟨earlier, later, hsplit, rfl, ?_⟩
    intro other hother hsame
    have hother' : other ∈ candidates rules cs := by simp [hsplit, hother]
    have hle := (candidates_le_iff hother' hmem).mpr (Nat.le_of_eq hsame)
    exact absurd (hearlier other hother) (Nat.not_lt.mpr hle)
  · rintro ⟨offset, hleast, htaken⟩
    rcases takenAt_iff.mp htaken with ⟨earlier, later, hsplit, rfl, hearlier⟩
    have hmem : candidate ∈ candidates rules cs := by simp [hsplit]
    have hle := (isLeast_matchStart_iff hmem).mp hleast
    refine best?_eq_some_iff.mpr ⟨earlier, later, hsplit, ?_, ?_⟩
    · intro other hother
      have hother' : other ∈ candidates rules cs := by simp [hsplit, hother]
      refine Nat.lt_of_not_le fun hback => hearlier other hother ?_
      exact Nat.le_antisymm ((candidates_le_iff hother' hmem).mp hback)
        ((candidates_le_iff hmem hother').mp (hle other hother'))
    · intro other hother
      exact hle other (by simp [hsplit, hother])

theorem best?_candidates_eq_none_iff {rules : List Rule} {cs : List Char} :
    best? (candidates rules cs) = none <->
      (forall rule, rule ∈ rules -> rule.find? cs = none) ∧
        forall c, c ∈ cs -> Character.isWhiteSpace c = false := by
  rw [best?_eq_none_iff, ← whitespace?_eq_none_iff, candidates_eq, List.append_eq_nil_iff,
    ruleCandidates, List.filterMap_eq_nil_iff]
  simp

/-!
# Scanning place by place
-/

/-- A token that covers a span of the text. -/
def covering (text : String) (kind : String) (span : Span) : Token :=
  { text := String.ofList (span.extract text.toList)
    kind := kind
    span := span
    invalid := false }

/-- The token for the bytes that are passed over before a match, if there are any. -/
def passedOver (text : String) (kind : String) (place offset : Nat) : List Token :=
  if offset = 0 then []
  else [covering text kind { start := place, stop := place + offset }]

/-- The text from a byte offset on. -/
def restAt (text : String) (place : Nat) : List Char :=
  Text.back place text.toList

/-- The tokens of the text from a scan position on. -/
inductive ScannedFrom (text : String) (rules : List Rule) (defaultKind : String) :
    Nat -> List Token -> Prop where
  | finished : ScannedFrom text rules defaultKind text.utf8ByteSize []
  | unmatched {place : Nat} :
      place < text.utf8ByteSize ->
      (forall rule, rule ∈ rules -> rule.find? (restAt text place) = none) ->
      (forall c, c ∈ restAt text place -> Character.isWhiteSpace c = false) ->
      ScannedFrom text rules defaultKind place
        [covering text defaultKind { start := place, stop := text.utf8ByteSize }]
  | matched {place offset : Nat} {candidate : Candidate} {token : Token} {later : List Token} :
      place < text.utf8ByteSize ->
      IsLeast { offset | MatchStart rules (restAt text place) offset } offset ->
      TakenAt rules (restAt text place) offset candidate ->
      token = Token.placed candidate.found.text candidate.kind (place + offset) ->
      ScannedFrom text rules defaultKind token.span.stop later ->
      ScannedFrom text rules defaultKind place
        (passedOver text defaultKind place offset ++ token :: later)

theorem covering_part {text : String} {before cs after : List Char} (kind : String)
    (h : text.toList = before ++ (cs ++ after)) :
    covering text kind
        { start := Text.byteLength before
          stop := Text.byteLength before + Text.byteLength cs } =
      Token.placed cs kind (Text.byteLength before) := by
  rw [covering, h, Span.extract_append]
  rfl

theorem restAt_byteLength {text : String} {before cs : List Char}
    (h : text.toList = before ++ cs) : restAt text (Text.byteLength before) = cs := by
  rw [restAt, h, Text.back_byteLength_append]

theorem utf8ByteSize_of_parts {text : String} {before cs : List Char}
    (h : text.toList = before ++ cs) :
    Text.byteLength before + Text.byteLength cs = text.utf8ByteSize := by
  rw [← Text.byteLength_toList, h, Text.byteLength_append]

theorem layOut_gap_eq_passedOver {text : String} {before gapped after : List Char}
    (kind : String) (h : text.toList = before ++ (gapped ++ after)) :
    layOut (Text.byteLength before) (gap kind gapped) =
      passedOver text kind (Text.byteLength before) (Text.byteLength gapped) := by
  cases gapped with
  | nil => rfl
  | cons c rest =>
      have hpos := Text.byteLength_pos (List.cons_ne_nil c rest)
      rw [passedOver, if_neg (Nat.ne_of_gt hpos), covering_part kind h]
      rfl

/-- One round of the scan: what is passed over, the match, and the scan from its end on. -/
theorem layOut_matched {text : String} {before cs : List Char} {rules : List Rule}
    (defaultKind : String) {candidate : Candidate} (htext : text.toList = before ++ cs)
    (hbest : best? (candidates rules cs) = some candidate) :
    layOut (Text.byteLength before) (pieces rules defaultKind cs) =
      passedOver text defaultKind (Text.byteLength before)
          (Text.byteLength candidate.found.before) ++
        Token.placed candidate.found.text candidate.kind
            (Text.byteLength before + Text.byteLength candidate.found.before) ::
          layOut (Text.byteLength (before ++ (candidate.found.before ++ candidate.found.text)))
            (pieces rules defaultKind candidate.found.after) := by
  have hparts := (candidates_readsIn (best?_mem hbest)).parts
  rw [← hparts] at htext
  rw [pieces_of_some hbest, layOut_append, gap_chars, layOut_gap_eq_passedOver _ htext, layOut]
  simp [Nat.add_assoc]

/-- The end of a match, as the scan counts it, is where the rest after it starts. -/
theorem placed_stop_eq (before gapped cs : List Char) (kind : String) :
    (Token.placed cs kind (Text.byteLength before + Text.byteLength gapped)).span.stop =
      Text.byteLength (before ++ (gapped ++ cs)) := by
  simp [Token.placed, Nat.add_assoc]

theorem append_parts {cs before : List Char} {found : Pattern.Match} (h : found.ReadsIn cs) :
    before ++ cs = before ++ (found.before ++ found.text) ++ found.after := by
  rw [← h.parts]
  simp

/-- A scan that finds nothing: one token for all that is left. -/
theorem layOut_unmatched {text : String} {before cs : List Char} {rules : List Rule}
    (defaultKind : String) (htext : text.toList = before ++ cs) (hcs : cs ≠ [])
    (hbest : best? (candidates rules cs) = none) :
    layOut (Text.byteLength before) (pieces rules defaultKind cs) =
      [covering text defaultKind
        { start := Text.byteLength before, stop := text.utf8ByteSize }] := by
  have hsize := utf8ByteSize_of_parts htext
  rw [← List.append_nil cs] at htext
  rw [pieces_of_none hcs hbest, ← hsize, covering_part defaultKind htext]
  rfl

/-- Something is left to scan at a place that is not the end of the text. -/
theorem place_lt_iff {text : String} {before cs : List Char}
    (htext : text.toList = before ++ cs) :
    Text.byteLength before < text.utf8ByteSize <-> cs ≠ [] := by
  rw [← utf8ByteSize_of_parts htext]
  constructor
  · rintro hlt rfl
    exact Nat.lt_irrefl _ hlt
  · intro hcs
    exact Nat.lt_add_of_pos_right (Text.byteLength_pos hcs)

theorem takenAt_offset {rules : List Rule} {cs : List Char} {offset : Nat}
    {candidate : Candidate} (h : TakenAt rules cs offset candidate) :
    Text.byteLength candidate.found.before = offset := by
  rcases takenAt_iff.mp h with ⟨_, _, _, hoffset, _⟩
  exact hoffset

/-- The tokens of a scan are related to the text, round by round. -/
theorem scannedFrom_layOut {text : String} (rules : List Rule) (defaultKind : String)
    {before cs : List Char} (htext : text.toList = before ++ cs) :
    ScannedFrom text rules defaultKind (Text.byteLength before)
      (layOut (Text.byteLength before) (pieces rules defaultKind cs)) := by
  have hrest := restAt_byteLength htext
  fun_induction pieces rules defaultKind cs generalizing before with
  | case1 cs hempty =>
      have hsize := utf8ByteSize_of_parts htext
      rw [List.isEmpty_iff.mp hempty, Text.byteLength_nil, Nat.add_zero] at hsize
      rw [hsize]
      exact ScannedFrom.finished
  | case2 cs hcs hbest =>
      have hcs' : cs ≠ [] := by simpa using hcs
      rcases best?_candidates_eq_none_iff.mp hbest with ⟨hrules, hblank⟩
      rw [← pieces_of_none hcs' hbest, layOut_unmatched defaultKind htext hcs' hbest]
      rw [← hrest] at hrules hblank
      exact ScannedFrom.unmatched ((place_lt_iff htext).mpr hcs') hrules hblank
  | case3 cs hcs candidate hbest hlt ih =>
      have hcs' : cs ≠ [] := by simpa using hcs
      rcases best?_candidates_iff.mp hbest with ⟨offset, hleast, htaken⟩
      have hafter := htext.trans (append_parts (candidates_readsIn (best?_mem hbest)))
      have hlater := ih hafter (restAt_byteLength hafter)
      rw [← pieces_of_some hbest, layOut_matched defaultKind htext hbest, takenAt_offset htaken]
      rw [← hrest] at hleast htaken
      refine ScannedFrom.matched ((place_lt_iff htext).mpr hcs') hleast htaken rfl ?_
      rw [← takenAt_offset htaken, placed_stop_eq]
      exact hlater

/-- Tokens that are related to the text are the tokens of the scan. -/
theorem eq_layOut_of_scannedFrom {text : String} {rules : List Rule} {defaultKind : String}
    {place : Nat} {found : List Token} (h : ScannedFrom text rules defaultKind place found)
    {before cs : List Char} (htext : text.toList = before ++ cs)
    (hplace : place = Text.byteLength before) :
    found = layOut (Text.byteLength before) (pieces rules defaultKind cs) := by
  induction h generalizing before cs with
  | finished =>
      have hcs : cs = [] := by
        by_contra hcs
        have hlt := (place_lt_iff htext).mpr hcs
        rw [← hplace] at hlt
        exact Nat.lt_irrefl _ hlt
      rw [hcs, pieces_nil]
      rfl
  | unmatched hlt hrules hblank =>
      subst hplace
      rw [restAt_byteLength htext] at hrules hblank
      exact (layOut_unmatched defaultKind htext ((place_lt_iff htext).mp hlt)
        (best?_candidates_eq_none_iff.mpr ⟨hrules, hblank⟩)).symm
  | matched hlt hleast htaken htoken _ ih =>
      subst hplace
      rw [restAt_byteLength htext] at hleast htaken
      have hbest := best?_candidates_iff.mpr ⟨_, hleast, htaken⟩
      have hafter := htext.trans (append_parts (candidates_readsIn (best?_mem hbest)))
      rw [layOut_matched defaultKind htext hbest, takenAt_offset htaken, ← htoken,
        ← ih hafter]
      rw [htoken, ← takenAt_offset htaken, placed_stop_eq]

/--
Place by place the scan takes the leftmost match, and that of the earlier rule on
ties: the tokens of a scan, and no other tokens, come about in this way.
-/
theorem scannedFrom_iff_eq_tokens (text : String) (rules : List Rule) (defaultKind : String)
    (found : List Token) :
    ScannedFrom text rules defaultKind 0 found <-> found = tokens text rules defaultKind := by
  have htext : text.toList = [] ++ text.toList := rfl
  rw [tokens_eq_layOut]
  constructor
  · intro h
    exact eq_layOut_of_scannedFrom h htext rfl
  · rintro rfl
    exact scannedFrom_layOut rules defaultKind htext

/-- On a tie the earlier rule is taken, and not the longer match. -/
example :
    (tokens "abc"
      [Rule.ofPattern "short"
        { text := "ab"
          expr := .seq (.read (.range 'a' 'a')) (.read (.range 'b' 'b')) },
      Rule.ofPattern "long"
        { text := "a[a-z]*"
          expr := .seq (.read (.range 'a' 'a')) (.times (.read (.range 'a' 'z')) 0 none true) }]
      Token.unknownKind).map Token.kind = ["short", Token.unknownKind] := by
  decide +kernel

end Scan
end FieldGrammar
