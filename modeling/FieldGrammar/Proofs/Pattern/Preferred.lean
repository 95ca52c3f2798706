import FieldGrammar.Proofs.Pattern.Search
import FieldGrammar.Proofs.Pattern.Threads

/-!
# The preferred match

Following all candidates side by side gives the match that backtracking finds.  So in
a choice the match of the first alternative is preferred whenever it has one, even an
empty one.
-/

namespace FieldGrammar
namespace Pattern
namespace Expr

/-!
# Side by side and one after the other
-/

theorem follow_eq {e : Expr} {all threads : List Thread} (hall : ThreadsOf e all)
    (hthreads : threads ⊆ all) {before : Option Char} {cs : List Char} {outcome : Option Nat}
    (h : Tried [] before cs threads outcome) (best : Option Nat) (taken : Nat) :
    e.follow threads before best taken cs = (outcome.map (taken + ·)).or best := by
  induction cs generalizing threads before outcome best taken with
  | nil =>
      rcases frontier_visits hall hthreads before none with ⟨looks, met, hvisits⟩
      have hyields : Frontier.Yields [] (e.frontier threads before none) outcome :=
        hvisits.yields h
      rw [follow_nil rfl]
      cases hyields with
      | ended => cases hfinished : (e.frontier threads before none).finished <;>
          simp [Frontier.here, hfinished]
  | cons c rest ih =>
      rcases frontier_visits hall hthreads before (some c) with ⟨looks, met, hvisits⟩
      have hsubset := Frontier.advance_subset (hvisits.waiting_mem hall.into hthreads) c
      have hyields : Frontier.Yields (c :: rest) (e.frontier threads before (some c)) outcome :=
        hvisits.yields h
      cases hyields with
      | next hlater =>
          rename_i inner
          have hrest : e.follow threads before best taken (c :: rest) =
              (inner.map (taken + 1 + ·)).or
                (if (e.frontier threads before (some c)).finished then some taken else best) := by
            cases hadvance : (e.frontier threads before (some c)).advance c with
            | nil =>
                rw [hadvance] at hlater
                cases hlater
                rw [follow_stop rfl hadvance]
                rfl
            | cons thread others =>
                rw [hadvance] at hlater hsubset
                rw [follow_read rfl hadvance, ih hsubset hlater]
          rw [hrest]
          cases inner <;> cases hfinished : (e.frontier threads before (some c)).finished <;>
            simp [Frontier.here, hfinished, Nat.add_assoc, Nat.add_comm 1]

theorem preferred?_eq_iff {e : Expr} {before : Option Char} {cs : List Char}
    {outcome : Option Nat} :
    e.preferred? before cs = outcome <-> Tried [] before cs [[.meet e]] outcome := by
  rcases exists_threadsOf e with ⟨all, hall⟩
  have hstart : [[.meet e]] ⊆ all := List.cons_subset.mpr ⟨hall.start, List.nil_subset all⟩
  have heq : forall found, Tried [] before cs [[.meet e]] found ->
      e.preferred? before cs = found := by
    intro found htried
    unfold preferred?
    rw [follow_eq hall hstart htried none 0]
    cases found <;> simp
  constructor
  · intro h
    rcases exists_tried hall.into [] before cs [[.meet e]] hstart with ⟨found, htried⟩
    rw [← h, heq found htried]
    exact htried
  · exact heq outcome

end Expr

/-!
# Alternatives

The threads of an alternative never come to the choice that it is part of.  So it makes
no difference to an alternative whether it is tried alone or as part of the choice.
-/

def Expr.depth : Expr -> Nat
  | empty => 0
  | read _ => 0
  | look _ => 0
  | seq a b => max a.depth b.depth + 1
  | choice a b => max a.depth b.depth + 1
  | times body _ _ _ => body.depth + 1

def Goal.depth : Goal -> Nat
  | meet e => e.depth
  | again body _ => body.depth

/-- No goal of the thread is deeper than the bound. -/
def Thread.Within (bound : Nat) (thread : Thread) : Prop :=
  forall goal, goal ∈ thread -> goal.depth ≤ bound

theorem Thread.within_cons {bound : Nat} {goal : Goal} {rest : Thread} :
    Thread.Within bound (goal :: rest) <-> goal.depth ≤ bound ∧ rest.Within bound :=
  List.forall_mem_cons

theorem forall_mem_inOrder {p : Thread -> Prop} {greedy : Bool} {goOn stop : Thread} :
    (forall thread, thread ∈ Thread.inOrder greedy goOn stop -> p thread) <-> p goOn ∧ p stop := by
  cases greedy <;> simp [Thread.inOrder, and_comm]

theorem Thread.Within.next {bound : Nat} {thread : Thread} (holds : Assertion -> Bool) :
    thread.Within bound ->
      forall next, next ∈ (thread.move holds).next -> Thread.Within bound next := by
  fun_cases Thread.move holds thread <;>
    simp only [Move.next, List.forall_mem_cons, forall_mem_inOrder, Thread.within_cons, Goal.depth,
      Expr.depth] <;>
    grind

theorem Thread.Within.parts {bound : Nat} {thread : Thread} {before : Option Char}
    {cs : List Char} {parts : List Thread} (h : thread.Within bound)
    (hmove : thread.moveAt before cs = .split parts) :
    forall part, part ∈ parts -> part.Within bound := by
  have hnext := h.next (Assertion.holds before cs.head?)
  rw [← Thread.moveAt, hmove] at hnext
  exact hnext

/-- Only the threads of the path that can be met again make a difference. -/
theorem Tried.congr_path {path other threads : List Thread} {before : Option Char}
    {cs : List Char} {outcome : Option Nat} (bound : Nat)
    (h : Tried path before cs threads outcome)
    (hpath : forall thread, thread.Within bound -> (thread ∈ path <-> thread ∈ other))
    (hthreads : forall thread, thread ∈ threads -> thread.Within bound) :
    Tried other before cs threads outcome := by
  induction h generalizing other with
  | nothing => exact .nothing
  | round hmem _ ih =>
      rw [List.forall_mem_cons] at hthreads
      exact .round ((hpath _ hthreads.1).mp hmem) (ih hpath hthreads.2)
  | finish hnew hmove =>
      rw [List.forall_mem_cons] at hthreads
      exact .finish (mt (hpath _ hthreads.1).mpr hnew) hmove
  | splitFound hnew hmove _ ih =>
      rw [List.forall_mem_cons] at hthreads
      refine .splitFound (mt (hpath _ hthreads.1).mpr hnew) hmove
        (ih ?_ (hthreads.1.parts hmove))
      intro part hpart
      rw [List.mem_cons, List.mem_cons, hpath part hpart]
  | splitFailed hnew hmove _ _ ihparts ihothers =>
      rw [List.forall_mem_cons] at hthreads
      refine .splitFailed (mt (hpath _ hthreads.1).mpr hnew) hmove
        (ihparts ?_ (hthreads.1.parts hmove)) (ihothers hpath hthreads.2)
      intro part hpart
      rw [List.mem_cons, List.mem_cons, hpath part hpart]
  | stuck hnew hmove hstuck _ ih =>
      rw [List.forall_mem_cons] at hthreads
      exact .stuck (mt (hpath _ hthreads.1).mpr hnew) hmove hstuck (ih hpath hthreads.2)
  | readFound hnew hmove hreads hrest =>
      rw [List.forall_mem_cons] at hthreads
      exact .readFound (mt (hpath _ hthreads.1).mpr hnew) hmove hreads hrest
  | readFailed hnew hmove hreads hrest _ _ ih =>
      rw [List.forall_mem_cons] at hthreads
      exact .readFailed (mt (hpath _ hthreads.1).mpr hnew) hmove hreads hrest
        (ih hpath hthreads.2)

theorem Tried.of_parts {path parts : List Thread} {thread : Thread} {before : Option Char}
    {cs : List Char} {outcome : Option Nat} (hnew : thread ∉ path)
    (hmove : thread.moveAt before cs = .split parts)
    (h : Tried (thread :: path) before cs parts outcome) :
    Tried path before cs [thread] outcome := by
  cases outcome with
  | none => exact .splitFailed hnew hmove h .nothing
  | some n => exact .splitFound hnew hmove h

namespace Expr

theorem tried_under_choice {a b e : Expr} (hdepth : e.depth ≤ max a.depth b.depth)
    (before : Option Char) (cs : List Char) :
    Tried [[.meet (.choice a b)]] before cs [[.meet e]] (e.preferred? before cs) := by
  refine (preferred?_eq_iff.mp rfl).congr_path (max a.depth b.depth) ?_ ?_
  · intro thread hwithin
    have hne : thread ≠ [.meet (.choice a b)] := by
      rintro rfl
      exact absurd (Thread.within_cons.mp hwithin).1 (Nat.not_succ_le_self _)
    simp [hne]
  · simpa [Thread.Within, Goal.depth] using hdepth

/-- The first alternative that has a match decides. -/
theorem preferred?_choice (a b : Expr) (before : Option Char) (cs : List Char) :
    (choice a b).preferred? before cs =
      (a.preferred? before cs).or (b.preferred? before cs) := by
  have ha := tried_under_choice (Nat.le_max_left a.depth b.depth) before cs
  have hb := tried_under_choice (Nat.le_max_right a.depth b.depth) before cs
  rw [preferred?_eq_iff]
  apply Tried.of_parts List.not_mem_nil rfl
  cases hfirst : a.preferred? before cs with
  | none =>
      rw [hfirst] at ha
      exact ha.append_failed hb
  | some n =>
      rw [hfirst] at ha
      exact ha.append_found [[.meet b]]

end Expr
end Pattern
end FieldGrammar
