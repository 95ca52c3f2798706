import Mathlib.Data.List.Infix
import FieldGrammar.Builtin
import FieldGrammar.Proofs.Scan.Leftmost

/-!
# The order of the rules

The order of the rules decides only between matches that start together.  Where no
two rules tie, in no rest of the text, what is taken at a place is the match of the
one rule that has a match there, and the rules can stand in any order.  White space
comes after all rules in every order, so a rule may tie with it.
-/

namespace FieldGrammar
namespace Scan

/-- The matches of the two rules in the text start together. -/
def Tie (cs : List Char) (a b : Rule) : Prop :=
  exists offset, StartsAt a cs offset ∧ StartsAt b cs offset

/-- No two rules, at different positions of the list, tie. -/
def NoTies (rules : List Rule) (cs : List Char) : Prop :=
  rules.Pairwise fun a b => ¬ Tie cs a b

theorem tie_iff {cs : List Char} {a b : Rule} :
    Tie cs a b <->
      exists x, x ∈ a.find? cs ∧ exists y, y ∈ b.find? cs ∧
        Text.byteLength x.before = Text.byteLength y.before := by
  constructor
  · rintro ⟨offset, ⟨x, hx, rfl⟩, ⟨y, hy, hsame⟩⟩
    exact ⟨x, hx, y, hy, hsame.symm⟩
  · rintro ⟨x, hx, y, hy, hsame⟩
    exact ⟨_, ⟨x, hx, rfl⟩, ⟨y, hy, hsame.symm⟩⟩

instance (cs : List Char) (a b : Rule) : Decidable (Tie cs a b) :=
  decidable_of_iff _ tie_iff.symm

instance (rules : List Rule) (cs : List Char) : Decidable (NoTies rules cs) :=
  inferInstanceAs (Decidable (rules.Pairwise fun a b => ¬ Tie cs a b))

theorem Tie.symm {cs : List Char} {a b : Rule} (h : Tie cs a b) : Tie cs b a := by
  rcases h with ⟨offset, ha, hb⟩
  exact ⟨offset, hb, ha⟩

theorem NoTies.perm {rules others : List Rule} {cs : List Char} (h : NoTies rules cs)
    (hperm : rules.Perm others) : NoTies others cs := by
  apply hperm.pairwise h
  intro a b hab hba
  exact hab hba.symm

/-- A rule that starts at an offset is the first one there, since it is the only one. -/
theorem NoTies.not_startsAt {earlier later : List Rule} {rule : Rule} {cs : List Char}
    (h : NoTies (earlier ++ rule :: later) cs) {offset : Nat} (hrule : StartsAt rule cs offset) :
    forall other, other ∈ earlier -> ¬ StartsAt other cs offset := by
  intro other hother hstart
  have hpairs := (List.pairwise_append.mp h).2.2
  exact hpairs other hother rule (by simp) ⟨offset, hstart, hrule⟩

/-!
# Rules in another order

Where a match can start depends on the rules and not on their order.  So does what
is taken there, once there are no ties.
-/

theorem matchStart_perm {rules others : List Rule} (hperm : rules.Perm others) (cs : List Char) :
    MatchStart rules cs = MatchStart others cs := by
  funext offset
  simp only [MatchStart, hperm.mem_iff]

theorem takenAt_perm {rules others : List Rule} {cs : List Char} {offset : Nat}
    {candidate : Candidate} (hperm : rules.Perm others) (hties : NoTies others cs)
    (h : TakenAt rules cs offset candidate) : TakenAt others cs offset candidate := by
  cases h with
  | rule hrules hearlier hfound hoffset =>
      rename_i earlier later rule found
      have hmem : rule ∈ others := hperm.mem_iff.mp (by simp [hrules])
      rcases List.append_of_mem hmem with ⟨before, after, rfl⟩
      exact TakenAt.rule rfl (hties.not_startsAt ⟨found, hfound, hoffset⟩) hfound hoffset
  | whitespace hrules hrun hoffset =>
      refine TakenAt.whitespace ?_ hrun hoffset
      intro rule hrule
      exact hrules rule (hperm.mem_iff.mpr hrule)

theorem best?_candidates_of_perm {rules others : List Rule} {cs : List Char}
    {candidate : Candidate} (hperm : rules.Perm others) (hties : NoTies others cs)
    (h : best? (candidates rules cs) = some candidate) :
    best? (candidates others cs) = some candidate := by
  rcases best?_candidates_iff.mp h with ⟨offset, hleast, htaken⟩
  rw [matchStart_perm hperm] at hleast
  exact best?_candidates_iff.mpr ⟨offset, hleast, takenAt_perm hperm hties htaken⟩

theorem best?_candidates_perm {rules others : List Rule} {cs : List Char}
    (hperm : rules.Perm others) (hties : NoTies rules cs) :
    best? (candidates rules cs) = best? (candidates others cs) := by
  apply Option.ext
  intro candidate
  exact ⟨best?_candidates_of_perm hperm (hties.perm hperm),
    best?_candidates_of_perm hperm.symm hties⟩

/--
Without ties in any rest of the text, rules in another order give the same tokens.
-/
theorem tokens_of_perm (text : String) (defaultKind : String) (rules others : List Rule)
    (hties : forall rest, rest <:+ text.toList -> NoTies rules rest)
    (hperm : rules.Perm others) :
    tokens text others defaultKind = tokens text rules defaultKind := by
  apply tokens_congr
  intro rest hrest
  exact (best?_candidates_perm hperm (hties rest hrest)).symm

/-- A rule for single blanks, which ties with white space, and one for values. -/
def blanksAndValues : List Rule :=
  [Rule.ofPattern "blank" { text := "\\s", expr := .read .whiteSpace }, Builtin.valueRule]

theorem tokens_of_blanksAndValues :
    (forall rest, rest <:+ "é \"é\" 1".toList -> NoTies blanksAndValues rest) ∧
      blanksAndValues.Perm blanksAndValues.reverse ∧
      tokens "é \"é\" 1" blanksAndValues.reverse Token.unknownKind =
        tokens "é \"é\" 1" blanksAndValues Token.unknownKind := by
  have hties : forall rest, rest ∈ "é \"é\" 1".toList.tails -> NoTies blanksAndValues rest := by
    decide +kernel
  have hsuffix : forall rest, rest <:+ "é \"é\" 1".toList -> NoTies blanksAndValues rest := by
    intro rest hrest
    exact hties rest ((List.mem_tails rest _).mpr hrest)
  have hperm : blanksAndValues.Perm blanksAndValues.reverse :=
    (List.reverse_perm blanksAndValues).symm
  exact ⟨hsuffix, hperm, tokens_of_perm _ _ _ _ hsuffix hperm⟩

/-- Rules that tie, here one rule under two names, give other tokens in another order. -/
example :
    (tokens " " [Rule.ofPattern "a" { text := "\\s", expr := .read .whiteSpace },
      Rule.ofPattern "b" { text := "\\s", expr := .read .whiteSpace }]
      Token.unknownKind).map Token.kind = ["a"] ∧
    (tokens " " [Rule.ofPattern "b" { text := "\\s", expr := .read .whiteSpace },
      Rule.ofPattern "a" { text := "\\s", expr := .read .whiteSpace }]
      Token.unknownKind).map Token.kind = ["b"] := by
  decide +kernel

end Scan
end FieldGrammar
