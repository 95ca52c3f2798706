import FieldGrammar.Pattern.Match

/-!
# Backtracking

What the preferred match is, told without following candidates side by side.  The
threads of a list are tried in their order, each to its end, until one of them is
finished.  A thread that splits is tried by its parts, and a thread that reads is
tried on the text after the character.  A thread that comes round to itself without
having read anything has failed.
-/

namespace FieldGrammar
namespace Pattern

/-- What the thread does at the place between a character and a text. -/
def Thread.moveAt (thread : Thread) (before : Option Char) (cs : List Char) : Move :=
  thread.move (Assertion.holds before cs.head?)

/--
What trying the threads comes to: the number of characters read by the first that is
finished, or nothing.  The path holds the threads that split on the way here since
the last character was read.
-/
inductive Tried : List Thread -> Option Char -> List Char -> List Thread -> Option Nat -> Prop where
  | nothing {path : List Thread} {before : Option Char} {cs : List Char} :
      Tried path before cs [] none
  | round {path others : List Thread} {thread : Thread} {before : Option Char} {cs : List Char}
      {outcome : Option Nat} :
      thread ∈ path ->
      Tried path before cs others outcome ->
      Tried path before cs (thread :: others) outcome
  | finish {path others : List Thread} {thread : Thread} {before : Option Char}
      {cs : List Char} :
      thread ∉ path ->
      thread.moveAt before cs = .finish ->
      Tried path before cs (thread :: others) (some 0)
  | splitFound {path others parts : List Thread} {thread : Thread} {before : Option Char}
      {cs : List Char} {n : Nat} :
      thread ∉ path ->
      thread.moveAt before cs = .split parts ->
      Tried (thread :: path) before cs parts (some n) ->
      Tried path before cs (thread :: others) (some n)
  | splitFailed {path others parts : List Thread} {thread : Thread} {before : Option Char}
      {cs : List Char} {outcome : Option Nat} :
      thread ∉ path ->
      thread.moveAt before cs = .split parts ->
      Tried (thread :: path) before cs parts none ->
      Tried path before cs others outcome ->
      Tried path before cs (thread :: others) outcome
  | stuck {path others : List Thread} {thread rest : Thread} {before : Option Char}
      {cs : List Char} {set : CharSet} {outcome : Option Nat} :
      thread ∉ path ->
      thread.moveAt before cs = .read set rest ->
      (forall c, cs.head? = some c -> ¬ set.contains c = true) ->
      Tried path before cs others outcome ->
      Tried path before cs (thread :: others) outcome
  | readFound {path others : List Thread} {thread rest : Thread} {before : Option Char} {c : Char}
      {cs : List Char} {set : CharSet} {n : Nat} :
      thread ∉ path ->
      thread.moveAt before (c :: cs) = .read set rest ->
      set.contains c = true ->
      Tried [] (some c) cs [rest] (some n) ->
      Tried path before (c :: cs) (thread :: others) (some (n + 1))
  | readFailed {path others : List Thread} {thread rest : Thread} {before : Option Char} {c : Char}
      {cs : List Char} {set : CharSet} {outcome : Option Nat} :
      thread ∉ path ->
      thread.moveAt before (c :: cs) = .read set rest ->
      set.contains c = true ->
      Tried [] (some c) cs [rest] none ->
      Tried path before (c :: cs) others outcome ->
      Tried path before (c :: cs) (thread :: others) outcome

namespace Tried

/-!
# The first thread

How the first thread of a list was tried is decided by what it does at the place.
-/

section

variable {path others : List Thread} {thread : Thread} {before : Option Char} {cs : List Char}
  {outcome : Option Nat}

theorem of_round (hmem : thread ∈ path) (h : Tried path before cs (thread :: others) outcome) :
    Tried path before cs others outcome := by
  cases h with
  | round _ hothers => exact hothers
  | finish hnew => exact absurd hmem hnew
  | splitFound hnew => exact absurd hmem hnew
  | splitFailed hnew => exact absurd hmem hnew
  | stuck hnew => exact absurd hmem hnew
  | readFound hnew => exact absurd hmem hnew
  | readFailed hnew => exact absurd hmem hnew

theorem of_finish (hnew : thread ∉ path) (hmove : thread.moveAt before cs = .finish)
    (h : Tried path before cs (thread :: others) outcome) : outcome = some 0 := by
  cases h with
  | round hmem => exact absurd hmem hnew
  | finish => rfl
  | splitFound _ hother => cases hmove.symm.trans hother
  | splitFailed _ hother => cases hmove.symm.trans hother
  | stuck _ hother => cases hmove.symm.trans hother
  | readFound _ hother => cases hmove.symm.trans hother
  | readFailed _ hother => cases hmove.symm.trans hother

theorem of_split {parts : List Thread} (hnew : thread ∉ path)
    (hmove : thread.moveAt before cs = .split parts)
    (h : Tried path before cs (thread :: others) outcome) :
    (exists n, outcome = some n ∧ Tried (thread :: path) before cs parts (some n)) ∨
      (Tried (thread :: path) before cs parts none ∧ Tried path before cs others outcome) := by
  cases h with
  | round hmem => exact absurd hmem hnew
  | finish _ hother => cases hmove.symm.trans hother
  | splitFound _ hother hparts =>
      cases hmove.symm.trans hother
      exact Or.inl ⟨_, rfl, hparts⟩
  | splitFailed _ hother hparts hothers =>
      cases hmove.symm.trans hother
      exact Or.inr ⟨hparts, hothers⟩
  | stuck _ hother => cases hmove.symm.trans hother
  | readFound _ hother => cases hmove.symm.trans hother
  | readFailed _ hother => cases hmove.symm.trans hother

theorem of_stuck {rest : Thread} {set : CharSet} (hnew : thread ∉ path)
    (hmove : thread.moveAt before cs = .read set rest)
    (hstuck : forall c, cs.head? = some c -> ¬ set.contains c = true)
    (h : Tried path before cs (thread :: others) outcome) :
    Tried path before cs others outcome := by
  cases h with
  | round hmem => exact absurd hmem hnew
  | finish _ hother => cases hmove.symm.trans hother
  | splitFound _ hother => cases hmove.symm.trans hother
  | splitFailed _ hother => cases hmove.symm.trans hother
  | stuck _ _ _ hothers => exact hothers
  | readFound _ hother hreads =>
      cases hmove.symm.trans hother
      exact absurd hreads (hstuck _ rfl)
  | readFailed _ hother hreads =>
      cases hmove.symm.trans hother
      exact absurd hreads (hstuck _ rfl)

theorem of_read {rest : Thread} {set : CharSet} {c : Char} (hnew : thread ∉ path)
    (hmove : thread.moveAt before (c :: cs) = .read set rest) (hreads : set.contains c = true)
    (h : Tried path before (c :: cs) (thread :: others) outcome) :
    (exists n, outcome = some (n + 1) ∧ Tried [] (some c) cs [rest] (some n)) ∨
      (Tried [] (some c) cs [rest] none ∧ Tried path before (c :: cs) others outcome) := by
  cases h with
  | round hmem => exact absurd hmem hnew
  | finish _ hother => cases hmove.symm.trans hother
  | splitFound _ hother => cases hmove.symm.trans hother
  | splitFailed _ hother => cases hmove.symm.trans hother
  | stuck _ hother hstuck =>
      cases hmove.symm.trans hother
      exact absurd hreads (hstuck c rfl)
  | readFound _ hother _ hrest =>
      cases hmove.symm.trans hother
      exact Or.inl ⟨_, rfl, hrest⟩
  | readFailed _ hother _ hrest hothers =>
      cases hmove.symm.trans hother
      exact Or.inr ⟨hrest, hothers⟩

end

/-!
# One outcome
-/

theorem unique {path threads : List Thread} {before : Option Char} {cs : List Char}
    {a b : Option Nat} (ha : Tried path before cs threads a)
    (hb : Tried path before cs threads b) : a = b := by
  induction ha generalizing b with
  | nothing =>
      cases hb
      rfl
  | round hmem _ ih => exact ih (hb.of_round hmem)
  | finish hnew hmove => exact (hb.of_finish hnew hmove).symm
  | splitFound hnew hmove _ ih =>
      rcases hb.of_split hnew hmove with ⟨m, rfl, hparts⟩ | ⟨hparts, _⟩
      · exact ih hparts
      · cases ih hparts
  | splitFailed hnew hmove _ _ ihparts ihothers =>
      rcases hb.of_split hnew hmove with ⟨m, rfl, hparts⟩ | ⟨_, hothers⟩
      · cases ihparts hparts
      · exact ihothers hothers
  | stuck hnew hmove hstuck _ ih => exact ih (hb.of_stuck hnew hmove hstuck)
  | readFound hnew hmove hreads _ ih =>
      rcases hb.of_read hnew hmove hreads with ⟨m, rfl, hrest⟩ | ⟨hrest, _⟩
      · cases ih hrest
        rfl
      · cases ih hrest
  | readFailed hnew hmove hreads _ _ ihrest ihothers =>
      rcases hb.of_read hnew hmove hreads with ⟨m, rfl, hrest⟩ | ⟨_, hothers⟩
      · cases ihrest hrest
      · exact ihothers hothers

/-!
# Lists of threads, one after the other
-/

theorem append_found {path xs : List Thread} {before : Option Char} {cs : List Char} {n : Nat}
    (h : Tried path before cs xs (some n)) (ys : List Thread) :
    Tried path before cs (xs ++ ys) (some n) := by
  generalize houtcome : some n = outcome at h
  induction h with
  | nothing => cases houtcome
  | round hmem _ ih => exact .round hmem (ih houtcome)
  | finish hnew hmove => exact .finish hnew hmove
  | splitFound hnew hmove hparts => exact .splitFound hnew hmove hparts
  | splitFailed hnew hmove hparts _ _ ih => exact .splitFailed hnew hmove hparts (ih houtcome)
  | stuck hnew hmove hstuck _ ih => exact .stuck hnew hmove hstuck (ih houtcome)
  | readFound hnew hmove hreads hrest => exact .readFound hnew hmove hreads hrest
  | readFailed hnew hmove hreads hrest _ _ ih =>
      exact .readFailed hnew hmove hreads hrest (ih houtcome)

theorem append_failed {path xs ys : List Thread} {before : Option Char} {cs : List Char}
    {outcome : Option Nat} (hxs : Tried path before cs xs none)
    (hys : Tried path before cs ys outcome) : Tried path before cs (xs ++ ys) outcome := by
  generalize hnone : none = failed at hxs
  induction hxs with
  | nothing => exact hys
  | round hmem _ ih => exact .round hmem (ih hys hnone)
  | finish => cases hnone
  | splitFound => cases hnone
  | splitFailed hnew hmove hparts _ _ ih => exact .splitFailed hnew hmove hparts (ih hys hnone)
  | stuck hnew hmove hstuck _ ih => exact .stuck hnew hmove hstuck (ih hys hnone)
  | readFound => cases hnone
  | readFailed hnew hmove hreads hrest _ _ ih =>
      exact .readFailed hnew hmove hreads hrest (ih hys hnone)

end Tried
end Pattern
end FieldGrammar
