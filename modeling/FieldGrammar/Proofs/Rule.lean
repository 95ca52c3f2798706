import Mathlib.Order.Nat
import FieldGrammar.Rule
import FieldGrammar.Proofs.Pattern.Preferred
import FieldGrammar.Proofs.Text.Boundary

/-!
# What a rule finds

A rule finds the preferred match at the first place where that match reads something.
How many empty matches the search comes upon before makes no difference.  A place
where the preferred match is empty is passed over, whatever else the pattern could
have read there.
-/

namespace FieldGrammar
namespace Pattern
namespace Expr

/-!
# Places by their offsets

A place of a text is told by the number of bytes in front of it.  There is at most one
preferred match at an offset, so the least offset that reads something says which match
is found.
-/

/-- The preferred match at a byte offset of the text, as backtracking finds it. -/
structure PreferredAt (e : Expr) (text : String) (offset : Nat) (found : Match) : Prop where
  parts : found.before ++ (found.text ++ found.after) = text.toList
  offset_eq : Text.byteLength found.before = offset
  outcome :
    Tried [] found.before.getLast? (found.text ++ found.after) [[.meet e]]
      (some found.text.length)

/-- The offset is a boundary of the text, and the preferred match there is not empty. -/
def ReadsAt (e : Expr) (text : String) (offset : Nat) : Prop :=
  Text.IsBoundary text offset ∧ exists found, PreferredAt e text offset found ∧ found.text ≠ []

theorem PreferredAt.isBoundary {e : Expr} {text : String} {offset : Nat} {found : Match}
    (h : PreferredAt e text offset found) : Text.IsBoundary text offset := by
  refine Text.isBoundary_iff.mpr ⟨String.ofList found.before,
    String.ofList (found.text ++ found.after), ?_, ?_⟩
  · rw [← String.ofList_append, h.parts, String.ofList_toList]
  · rw [← Text.byteLength_toList, String.toList_ofList]
    exact h.offset_eq

theorem PreferredAt.preferred? {e : Expr} {text : String} {offset : Nat} {found : Match}
    (h : PreferredAt e text offset found) :
    e.preferred? found.before.getLast? (found.text ++ found.after) = some found.text.length :=
  preferred?_eq_iff.mpr h.outcome

/-- The offset says where to cut the text, and backtracking says how much is read there. -/
theorem PreferredAt.unique {e : Expr} {text : String} {offset : Nat} {a b : Match}
    (ha : PreferredAt e text offset a) (hb : PreferredAt e text offset b) : a = b := by
  have hcut : a.before ++ (a.text ++ a.after) = b.before ++ (b.text ++ b.after) :=
    ha.parts.trans hb.parts.symm
  have hbefore : a.before = b.before := by
    rw [← Text.front_byteLength_append a.before (a.text ++ a.after), hcut, ha.offset_eq,
      ← hb.offset_eq, Text.front_byteLength_append]
  have hrest : a.text ++ a.after = b.text ++ b.after := by
    rw [hbefore] at hcut
    exact List.append_cancel_left hcut
  have hlength : a.text.length = b.text.length := by
    have houtcome := ha.outcome
    rw [hbefore, hrest] at houtcome
    exact Option.some.inj (houtcome.unique hb.outcome)
  rcases List.append_inj hrest hlength with ⟨htext, hafter⟩
  rcases a with ⟨before, read, after⟩
  cases hbefore
  cases htext
  cases hafter
  rfl

theorem readsAt_iff {e : Expr} {text : String} {offset : Nat} :
    ReadsAt e text offset <-> exists before rest n, before ++ rest = text.toList ∧
      Text.byteLength before = offset ∧ e.preferred? before.getLast? rest = some (n + 1) := by
  constructor
  · rintro ⟨_, found, hpreferred, htext⟩
    rcases Nat.exists_eq_succ_of_ne_zero (mt List.length_eq_zero_iff.mp htext) with ⟨n, hn⟩
    refine ⟨found.before, found.text ++ found.after, n, hpreferred.parts, hpreferred.offset_eq, ?_⟩
    rw [hpreferred.preferred?, hn]
  · rintro ⟨before, rest, n, hparts, hoffset, hread⟩
    have hlength : (rest.take (n + 1)).length = n + 1 :=
      List.length_take_of_le (preferred?_le hread)
    have hpreferred : PreferredAt e text offset
        { before := before, text := rest.take (n + 1), after := rest.drop (n + 1) } := by
      refine ⟨?_, hoffset, preferred?_eq_iff.mp ?_⟩
      · rw [List.take_append_drop, hparts]
      · rw [List.take_append_drop, hread, hlength]
    refine ⟨hpreferred.isBoundary, _, hpreferred, ?_⟩
    apply List.ne_nil_of_length_pos
    rw [hlength]
    exact Nat.succ_pos n

theorem FirstRead.preferredAt {e : Expr} {text : String} {found : Match}
    (h : FirstRead e none text.toList found) :
    PreferredAt e text (Text.byteLength found.before) found where
  parts := h.parts
  offset_eq := rfl
  outcome := by
    have hpreferred := h.preferred
    rw [Option.or_none] at hpreferred
    exact preferred?_eq_iff.mp hpreferred

theorem FirstRead.isLeast {e : Expr} {text : String} {found : Match}
    (h : FirstRead e none text.toList found) :
    IsLeast { offset | ReadsAt e text offset } (Text.byteLength found.before) := by
  constructor
  · exact ⟨h.preferredAt.isBoundary, found, h.preferredAt, h.text_ne_nil⟩
  · intro offset hreads
    rcases readsAt_iff.mp hreads with ⟨before, rest, n, hparts, rfl, hread⟩
    rw [← Text.length_le_iff_byteLength_le (h.parts.trans hparts.symm)]
    apply Nat.le_of_not_lt
    intro hlt
    apply h.passed before rest n hparts hlt
    rw [Option.or_none, hread]

theorem firstRead_of_isLeast {e : Expr} {text : String} {offset : Nat} {found : Match}
    (hleast : IsLeast { offset | ReadsAt e text offset } offset)
    (hfound : PreferredAt e text offset found) : FirstRead e none text.toList found where
  parts := hfound.parts
  text_ne_nil := by
    rcases hleast.1 with ⟨_, other, hother, htext⟩
    rw [hfound.unique hother]
    exact htext
  preferred := by
    rw [Option.or_none]
    exact hfound.preferred?
  passed := by
    intro before rest n hparts hlt hread
    rw [Option.or_none] at hread
    have hle := hleast.2 (readsAt_iff.mpr ⟨before, rest, n, hparts, rfl, hread⟩)
    rw [← hfound.offset_eq, ← Text.length_le_iff_byteLength_le (hfound.parts.trans hparts.symm)]
      at hle
    exact Nat.not_lt.mpr hle hlt

theorem find?_eq_some_iff_isLeast {e : Expr} {text : String} {found : Match} :
    e.find? none text.toList = some found <->
      exists offset, IsLeast { offset | ReadsAt e text offset } offset ∧
        PreferredAt e text offset found := by
  rw [find?_eq_some_iff]
  constructor
  · intro h
    exact ⟨_, h.isLeast, h.preferredAt⟩
  · rintro ⟨offset, hleast, hfound⟩
    exact firstRead_of_isLeast hleast hfound

theorem find?_eq_none_iff {e : Expr} {text : String} :
    e.find? none text.toList = none <-> forall offset, ¬ ReadsAt e text offset := by
  constructor
  · intro hnone offset hreads
    classical
    have hleast := Nat.isLeast_find (Exists.intro offset hreads)
    rcases hleast.1 with ⟨_, found, hfound, _⟩
    rw [find?_eq_some_iff_isLeast.mpr ⟨_, hleast, hfound⟩] at hnone
    cases hnone
  · intro hnever
    cases hfind : e.find? none text.toList with
    | none => rfl
    | some found =>
        rcases find?_eq_some_iff_isLeast.mp hfind with ⟨offset, hleast, _⟩
        exact absurd hleast.1 (hnever offset)

/-- Where the preferred match is empty nothing is found. -/
theorem PreferredAt.passed {e : Expr} {text : String} {offset : Nat} {skipped : Match}
    (h : PreferredAt e text offset skipped) (hempty : skipped.text = []) {found : Match}
    (hfind : e.find? none text.toList = some found) : Text.byteLength found.before ≠ offset := by
  have hfirst := find?_eq_some_iff.mp hfind
  rintro rfl
  rw [h.unique hfirst.preferredAt] at hempty
  exact hfirst.text_ne_nil hempty

theorem PreferredAt.choice {a : Expr} {text : String} {offset : Nat} {found : Match}
    (h : PreferredAt a text offset found) (b : Expr) :
    PreferredAt (.choice a b) text offset found where
  parts := h.parts
  offset_eq := h.offset_eq
  outcome := by
    rw [← preferred?_eq_iff, preferred?_choice, h.preferred?]
    rfl

end Expr
end Pattern

namespace Rule

open Pattern

/--
A rule finds the preferred match at the least offset where that match reads something,
and nothing when there is no such offset.  An offset where the preferred match is empty
is passed over.  In a choice this is so wherever the first alternative has an empty
match, whatever the second one could read there.
-/
theorem find?_leftmost (rule : Rule) (text : String) :
    (forall found, rule.find? text.toList = some found <->
      exists offset, IsLeast { offset | Expr.ReadsAt rule.pattern.expr text offset } offset ∧
        Expr.PreferredAt rule.pattern.expr text offset found) ∧
    (rule.find? text.toList = none <->
      forall offset, ¬ Expr.ReadsAt rule.pattern.expr text offset) ∧
    (forall offset skipped, Expr.PreferredAt rule.pattern.expr text offset skipped ->
      skipped.text = [] ->
      forall found, rule.find? text.toList = some found ->
        Text.byteLength found.before ≠ offset) ∧
    (forall first second offset skipped, rule.pattern.expr = .choice first second ->
      Expr.PreferredAt first text offset skipped -> skipped.text = [] ->
      forall found, rule.find? text.toList = some found ->
        Text.byteLength found.before ≠ offset) := by
  refine ⟨fun found => Expr.find?_eq_some_iff_isLeast, Expr.find?_eq_none_iff, ?_, ?_⟩
  · intro offset skipped hskipped hempty found hfound
    exact hskipped.passed hempty hfound
  · intro first second offset skipped hchoice hfirst hempty found hfound
    have hskipped : Expr.PreferredAt rule.pattern.expr text offset skipped := by
      rw [hchoice]
      exact hfirst.choice second
    exact hskipped.passed hempty hfound

/-- Either a run of `x`, which may be empty, or `ab`. -/
def emptyFirst : Rule :=
  ofPattern "kw"
    { text := "x*|ab"
      expr := .choice (.times (.read (.range 'x' 'x')) 0 none true)
        (.seq (.read (.range 'a' 'a')) (.read (.range 'b' 'b'))) }

theorem find?_leftmost_emptyFirst :
    Expr.PreferredAt (.seq (.read (.range 'a' 'a')) (.read (.range 'b' 'b'))) "éabx" 2
      { before := ['é'], text := ['a', 'b'], after := ['x'] } ∧
    Expr.PreferredAt (.times (.read (.range 'x' 'x')) 0 none true) "éabx" 2
      { before := ['é'], text := [], after := ['a', 'b', 'x'] } ∧
    Text.byteLength ['é', 'a', 'b'] ≠ 2 ∧
    exists offset, IsLeast { offset | Expr.ReadsAt emptyFirst.pattern.expr "éabx" offset } offset ∧
      Expr.PreferredAt emptyFirst.pattern.expr "éabx" offset
        { before := ['é', 'a', 'b'], text := ['x'], after := [] } := by
  have hsecond : Expr.PreferredAt (.seq (.read (.range 'a' 'a')) (.read (.range 'b' 'b'))) "éabx" 2
      { before := ['é'], text := ['a', 'b'], after := ['x'] } :=
    ⟨by decide, by decide, Expr.preferred?_eq_iff.mp (by decide +kernel)⟩
  have hfirst : Expr.PreferredAt (.times (.read (.range 'x' 'x')) 0 none true) "éabx" 2
      { before := ['é'], text := [], after := ['a', 'b', 'x'] } :=
    ⟨by decide, by decide, Expr.preferred?_eq_iff.mp (by decide +kernel)⟩
  have hfind : emptyFirst.find? "éabx".toList =
      some { before := ['é', 'a', 'b'], text := ['x'], after := [] } := by
    decide +kernel
  rcases find?_leftmost emptyFirst "éabx" with ⟨hleast, _, _, hshadowed⟩
  exact ⟨hsecond, hfirst, hshadowed _ _ _ _ rfl hfirst rfl _ hfind, (hleast _).mp hfind⟩

/-- With the alternatives in the other order `ab` is found. -/
example :
    (ofPattern "kw"
      { text := "ab|x*"
        expr := .choice (.seq (.read (.range 'a' 'a')) (.read (.range 'b' 'b')))
          (.times (.read (.range 'x' 'x')) 0 none true) }).find? "éabx".toList =
      some { before := ['é'], text := ['a', 'b'], after := ['x'] } := by
  decide +kernel

end Rule
end FieldGrammar
