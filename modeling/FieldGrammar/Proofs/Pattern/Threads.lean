import Mathlib.Data.Finset.Card
import FieldGrammar.Proofs.Pattern.Exploration

/-!
# The threads of an expression

The threads that an expression can come to, at whatever place of whatever text, are
no more than the expression has points.  So exploring a list of threads ends before
the bound on it is used up, and trying a list of threads always comes to an outcome.
-/

namespace FieldGrammar
namespace Pattern

/-- The threads that a move leads to. -/
def Move.next : Move -> List Thread
  | .finish => []
  | .read _ rest => [rest]
  | .split threads => threads

/-- All moves of the threads of the first list lead to threads of the second. -/
def Into (threads all : List Thread) : Prop :=
  forall thread, thread ∈ threads -> forall holds, (thread.move holds).next ⊆ all

theorem into_nil (all : List Thread) : Into [] all := by
  intro thread hthread
  cases hthread

theorem into_cons {thread : Thread} {threads all : List Thread}
    (hthread : forall holds, (thread.move holds).next ⊆ all) (hthreads : Into threads all) :
    Into (thread :: threads) all :=
  List.forall_mem_cons.mpr ⟨hthread, hthreads⟩

theorem into_append {xs ys all : List Thread} (hxs : Into xs all) (hys : Into ys all) :
    Into (xs ++ ys) all :=
  List.forall_mem_append.mpr ⟨hxs, hys⟩

theorem Into.mono {threads all more : List Thread} (h : Into threads all) (hmore : all ⊆ more) :
    Into threads more :=
  fun thread hthread holds => List.Subset.trans (h thread hthread holds) hmore

/-!
# Threads on the way to the end of an expression

An expression at the front of a thread comes to the threads of the list until it is
met, and then to what is left of the thread.
-/

structure Covers (e : Expr) (rest : Thread) (threads : List Thread) : Prop where
  start : .meet e :: rest ∈ threads
  into : Into threads (rest :: threads)
  length_le : threads.length ≤ e.points

theorem covers_single {e : Expr} {rest : Thread} (hpoints : e.points = 1)
    (hmove : forall holds, (Thread.move holds (.meet e :: rest)).next ⊆ [rest]) :
    Covers e rest [.meet e :: rest] where
  start := List.mem_singleton_self _
  into := (into_cons hmove (into_nil _)).mono (by simp)
  length_le := by simp [hpoints]

/-- An expression that is met by meeting one expression and then another, or by passing over. -/
theorem covers_seq {e a b : Expr} {rest : Thread} {first second : List Thread}
    (hmove : forall holds,
      (Thread.move holds (.meet e :: rest)).next ⊆ [.meet a :: .meet b :: rest, rest])
    (hpoints : a.points + b.points + 1 ≤ e.points) (ha : Covers a (.meet b :: rest) first)
    (hb : Covers b rest second) : Covers e rest ((.meet e :: rest) :: (first ++ second)) where
  start := List.mem_cons_self
  into := by
    have hstart := ha.start
    have hmiddle := hb.start
    refine into_cons ?_ (into_append (ha.into.mono ?_) (hb.into.mono ?_))
    · intro holds
      apply List.Subset.trans (hmove holds)
      grind
    · grind
    · grind
  length_le := by
    have hfirst := ha.length_le
    have hsecond := hb.length_le
    simp only [List.length_cons, List.length_append]
    omega

theorem covers_choice {a b : Expr} {rest : Thread} {first second : List Thread}
    (ha : Covers a rest first) (hb : Covers b rest second) :
    Covers (.choice a b) rest ((.meet (.choice a b) :: rest) :: (first ++ second)) where
  start := List.mem_cons_self
  into := by
    have hstart := ha.start
    have hother := hb.start
    refine into_cons ?_ (into_append (ha.into.mono ?_) (hb.into.mono ?_))
    · intro holds
      simp [Thread.move, Move.next, hstart, hother]
    · grind
    · grind
  length_le := by
    have hfirst := ha.length_le
    have hsecond := hb.length_le
    simp only [List.length_cons, List.length_append, Expr.points]
    omega

theorem inOrder_subset (greedy : Bool) (goOn stop : Thread) :
    Thread.inOrder greedy goOn stop ⊆ [goOn, stop] := by
  cases greedy <;> simp [Thread.inOrder]

/-- A repetition that has come to the goal of deciding on one more pass. -/
theorem covers_loop {body : Expr} {least : Nat} {greedy : Bool} {rest : Thread}
    {passes : List Thread}
    (hmove : forall holds,
      (Thread.move holds (.meet (.times body least none greedy) :: rest)).next ⊆
        [.meet body :: .again body greedy :: rest, .again body greedy :: rest, rest])
    (hbody : Covers body (.again body greedy :: rest) passes) :
    Covers (.times body least none greedy) rest
      ((.meet (.times body least none greedy) :: rest) ::
        (.again body greedy :: rest) :: passes) where
  start := List.mem_cons_self
  into := by
    have hstart := hbody.start
    refine into_cons ?_ (into_cons ?_ (hbody.into.mono ?_))
    · intro holds
      apply List.Subset.trans (hmove holds)
      grind
    · intro holds
      apply List.Subset.trans (inOrder_subset greedy _ _)
      grind
    · grind
  length_le := by
    have hlength := hbody.length_le
    have hpoints : body.points + 2 ≤ (least + 1) * (body.points + 2) :=
      Nat.le_mul_of_pos_left _ (Nat.succ_pos least)
    simp only [List.length_cons, Expr.points]
    omega

theorem exists_covers_open {body : Expr}
    (hbody : forall rest, exists threads, Covers body rest threads) (greedy : Bool)
    (least : Nat) (rest : Thread) :
    exists threads, Covers (.times body least none greedy) rest threads := by
  match least with
  | 0 =>
      rcases hbody (.again body greedy :: rest) with ⟨passes, hpasses⟩
      refine ⟨_, covers_loop ?_ hpasses⟩
      intro holds
      rw [Thread.move]
      split
      · simp [Move.next]
      · apply List.Subset.trans (inOrder_subset greedy _ _)
        simp
  | 1 =>
      rcases hbody (.again body greedy :: rest) with ⟨passes, hpasses⟩
      refine ⟨_, covers_loop ?_ hpasses⟩
      intro holds
      simp [Thread.move, Move.next]
  | n + 2 =>
      rcases hbody (.meet (.times body (n + 1) none greedy) :: rest) with ⟨first, hfirst⟩
      rcases exists_covers_open hbody greedy (n + 1) rest with ⟨later, hlater⟩
      refine ⟨_, covers_seq ?_ ?_ hfirst hlater⟩
      · intro holds
        simp [Thread.move, Move.next]
      · simp only [Expr.points, Nat.add_mul]
        omega

theorem exists_covers_bounded {body : Expr}
    (hbody : forall rest, exists threads, Covers body rest threads) (greedy : Bool)
    (least most : Nat) (rest : Thread) :
    exists threads, Covers (.times body least (some most) greedy) rest threads := by
  induction most generalizing least with
  | zero =>
      refine ⟨_, covers_single (by simp [Expr.points]) ?_⟩
      intro holds
      simp [Thread.move, Move.next]
  | succ m ih =>
      rcases hbody (.meet (.times body (least - 1) (some m) greedy) :: rest) with ⟨first, hfirst⟩
      rcases ih (least - 1) with ⟨later, hlater⟩
      refine ⟨_, covers_seq ?_ ?_ hfirst hlater⟩
      · intro holds
        cases least with
        | zero => exact inOrder_subset greedy _ _
        | succ n => simp [Thread.move, Move.next]
      · simp only [Expr.points, Nat.add_mul]
        omega

theorem exists_covers (e : Expr) (rest : Thread) : exists threads, Covers e rest threads := by
  induction e generalizing rest with
  | empty => exact ⟨_, covers_single rfl fun holds => by simp [Thread.move, Move.next]⟩
  | read set => exact ⟨_, covers_single rfl fun holds => by simp [Thread.move, Move.next]⟩
  | look assertion =>
      refine ⟨_, covers_single rfl ?_⟩
      intro holds
      rw [Thread.move]
      split <;> simp [Move.next]
  | seq a b iha ihb =>
      rcases iha (.meet b :: rest) with ⟨first, hfirst⟩
      rcases ihb rest with ⟨second, hsecond⟩
      refine ⟨_, covers_seq ?_ (Nat.le_refl _) hfirst hsecond⟩
      intro holds
      simp [Thread.move, Move.next]
  | choice a b iha ihb =>
      rcases iha rest with ⟨first, hfirst⟩
      rcases ihb rest with ⟨second, hsecond⟩
      exact ⟨_, covers_choice hfirst hsecond⟩
  | times body least most greedy ih =>
      cases most with
      | none => exact exists_covers_open ih greedy least rest
      | some most => exact exists_covers_bounded ih greedy least most rest

/-- A list that no move leads out of. -/
structure ThreadsOf (e : Expr) (all : List Thread) : Prop where
  start : [.meet e] ∈ all
  into : Into all all
  length_le : all.length ≤ e.points + 1

theorem exists_threadsOf (e : Expr) : exists all, ThreadsOf e all := by
  rcases exists_covers e [] with ⟨threads, hcovers⟩
  refine ⟨[] :: threads, List.mem_cons_of_mem [] hcovers.start, into_cons ?_ hcovers.into,
    Nat.succ_le_succ hcovers.length_le⟩
  intro holds
  exact List.nil_subset _

/-!
# Exploring ends

Every thread that is looked at was met before or is new.  The new ones are among the
threads of the expression, and each of them adds at most two threads to the work.
-/

/-- How many threads of the list have not been met. -/
def unmet (all seen : List Thread) : Nat :=
  (all.toFinset \ seen.toFinset).card

theorem unmet_cons {all seen : List Thread} {thread : Thread} (hall : thread ∈ all)
    (hnew : thread ∉ seen) : unmet all (thread :: seen) + 1 = unmet all seen := by
  unfold unmet
  rw [List.toFinset_cons, Finset.sdiff_insert]
  apply Finset.card_erase_add_one
  simp [hall, hnew]

theorem unmet_nil_le (all : List Thread) : unmet all [] ≤ all.length := by
  unfold unmet
  rw [List.toFinset_nil, Finset.sdiff_empty]
  exact List.toFinset_card_le all

theorem length_inOrder (greedy : Bool) (goOn stop : Thread) :
    (Thread.inOrder greedy goOn stop).length = 2 := by
  cases greedy <;> rfl

theorem length_next_le (thread : Thread) (holds : Assertion -> Bool) :
    (thread.move holds).next.length ≤ 2 := by
  fun_cases Thread.move holds thread <;> grind [Move.next, length_inOrder]

namespace Frontier

theorem exists_visits {all : List Thread} (hall : Into all all) (holds : Assertion -> Bool)
    (seen threads : List Thread) (hthreads : threads ⊆ all) :
    exists looks frontier met, Visits holds seen threads looks frontier met ∧
      unmet all met ≤ unmet all seen ∧
      looks + 2 * unmet all met ≤ threads.length + 2 * unmet all seen := by
  match threads with
  | [] => exact ⟨0, empty, seen, .nothing, Nat.le_refl _, Nat.le_refl _⟩
  | thread :: others =>
      rw [List.cons_subset] at hthreads
      by_cases hmem : thread ∈ seen
      · rcases exists_visits hall holds seen others hthreads.2 with ⟨n, frontier, met, hv, hle, hn⟩
        refine ⟨n + 1, frontier, met, .met hmem hv, hle, ?_⟩
        rw [List.length_cons]
        omega
      have hnew := unmet_cons hthreads.1 hmem
      have hnext := hall thread hthreads.1 holds
      have htwo := length_next_le thread holds
      cases hmove : thread.move holds with
      | finish =>
          refine ⟨1, done, seen, .finish hmem hmove, Nat.le_refl _, ?_⟩
          rw [List.length_cons]
          omega
      | read set rest =>
          rcases exists_visits hall holds (thread :: seen) others hthreads.2 with
            ⟨n, frontier, met, hv, hle, hn⟩
          refine ⟨n + 1, frontier.prepend set rest, met, .read hmem hmove hv, ?_, ?_⟩
          · omega
          · rw [List.length_cons]
            omega
      | split parts =>
          -- The thread itself is no longer unmet, which pays for looking at its two parts.
          rw [hmove] at hnext htwo
          rcases exists_visits hall holds (thread :: seen) parts hnext with
            ⟨n, first, between, hparts, hle, hn⟩
          rcases exists_visits hall holds between others hthreads.2 with
            ⟨m, second, met, hothers, hle', hm⟩
          refine ⟨n + m + 1, first.append second, met, .split hmem hmove hparts hothers, ?_, ?_⟩
          · omega
          · rw [List.length_cons]
            simp only [Move.next] at htwo
            omega
termination_by (unmet all seen, threads.length)
decreasing_by
  · exact Prod.Lex.right _ (Nat.lt_succ_self _)
  · exact Prod.Lex.left _ _ (by omega)
  · exact Prod.Lex.left _ _ (by omega)
  · exact Prod.Lex.left _ _ (by omega)

theorem Visits.waiting_mem {holds : Assertion -> Bool} {all seen threads met : List Thread}
    {looks : Nat} {frontier : Frontier} (h : Visits holds seen threads looks frontier met)
    (hall : Into all all) (hthreads : threads ⊆ all) :
    forall step, step ∈ frontier.waiting -> step.2 ∈ all := by
  induction h with
  | nothing => simp [empty]
  | met _ _ ih => exact ih (List.cons_subset.mp hthreads).2
  | finish => simp [done]
  | read _ hmove _ ih =>
      have hnext := hall _ (List.cons_subset.mp hthreads).1 holds
      rw [hmove] at hnext
      exact List.forall_mem_cons.mpr
        ⟨hnext (List.mem_singleton_self _), ih (List.cons_subset.mp hthreads).2⟩
  | split _ hmove _ _ ihparts ihothers =>
      have hnext := hall _ (List.cons_subset.mp hthreads).1 holds
      rw [hmove] at hnext
      have hfirst := ihparts hnext
      have hsecond := ihothers (List.cons_subset.mp hthreads).2
      unfold append
      split
      · exact hfirst
      · exact List.forall_mem_append.mpr ⟨hfirst, hsecond⟩

theorem advance_subset {all : List Thread} {frontier : Frontier}
    (h : forall step, step ∈ frontier.waiting -> step.2 ∈ all) (c : Char) :
    frontier.advance c ⊆ all := by
  intro thread hthread
  rcases List.mem_filterMap.mp hthread with ⟨step, hstep, hread⟩
  split at hread
  · cases hread
    exact h step hstep
  · cases hread

end Frontier

/-- The bound on exploring is never used up. -/
theorem Expr.frontier_visits {e : Expr} {all : List Thread} (hall : ThreadsOf e all)
    {threads : List Thread} (hthreads : threads ⊆ all) (before after : Option Char) :
    exists looks met,
      Frontier.Visits (Assertion.holds before after) [] threads looks
        (e.frontier threads before after) met := by
  rcases Frontier.exists_visits hall.into (Assertion.holds before after) [] threads hthreads with
    ⟨looks, frontier, met, hvisits, _, hlooks⟩
  have hunmet := unmet_nil_le all
  have hlength := hall.length_le
  have hfuel : looks + (e.fuel threads - looks) = e.fuel threads := by
    apply Nat.add_sub_cancel'
    unfold Expr.fuel
    omega
  have hexplore := hvisits.explore_append (e.fuel threads - looks) []
  have hrest : Frontier.explore (Assertion.holds before after) (e.fuel threads - looks) [] met =
      Frontier.empty := by
    cases e.fuel threads - looks <;> rfl
  rw [hfuel, List.append_nil, hrest, Frontier.append_empty] at hexplore
  refine ⟨looks, met, ?_⟩
  rw [Expr.frontier, hexplore]
  exact hvisits

/-!
# Trying ends

A path has no thread twice, and a character that is read is not read again.
-/

theorem exists_tried {all : List Thread} (hall : Into all all) (path : List Thread)
    (before : Option Char) (cs : List Char) (threads : List Thread) (hthreads : threads ⊆ all) :
    exists outcome, Tried path before cs threads outcome := by
  match threads with
  | [] => exact ⟨none, .nothing⟩
  | thread :: others =>
      rw [List.cons_subset] at hthreads
      rcases exists_tried hall path before cs others hthreads.2 with ⟨outcome, hothers⟩
      by_cases hmem : thread ∈ path
      · exact ⟨outcome, .round hmem hothers⟩
      have hnew := unmet_cons hthreads.1 hmem
      have hnext := hall thread hthreads.1 (Assertion.holds before cs.head?)
      cases hmove : thread.moveAt before cs with
      | finish => exact ⟨some 0, .finish hmem hmove⟩
      | split parts =>
          rw [Thread.moveAt] at hmove
          rw [hmove] at hnext
          rcases exists_tried hall (thread :: path) before cs parts hnext with ⟨inner, hparts⟩
          cases inner with
          | none => exact ⟨outcome, .splitFailed hmem hmove hparts hothers⟩
          | some n => exact ⟨some n, .splitFound hmem hmove hparts⟩
      | read set rest =>
          rw [Thread.moveAt] at hmove
          rw [hmove] at hnext
          match cs with
          | [] =>
              refine ⟨outcome, .stuck hmem hmove ?_ hothers⟩
              rintro c ⟨⟩
          | c :: later =>
              by_cases hreads : set.contains c = true
              · rcases exists_tried hall [] (some c) later [rest] hnext with ⟨inner, hrest⟩
                cases inner with
                | none => exact ⟨outcome, .readFailed hmem hmove hreads hrest hothers⟩
                | some n => exact ⟨some (n + 1), .readFound hmem hmove hreads hrest⟩
              · refine ⟨outcome, .stuck hmem hmove ?_ hothers⟩
                rintro d ⟨⟩
                exact hreads
termination_by (cs.length, unmet all path, threads.length)
decreasing_by
  · exact Prod.Lex.right _ (Prod.Lex.right _ (Nat.lt_succ_self _))
  · exact Prod.Lex.left _ _ (Nat.lt_succ_self _)
  · exact Prod.Lex.right _ (Prod.Lex.left _ _ (by omega))

end Pattern
end FieldGrammar
