import FieldGrammar.Proofs.Pattern.Backtracking

/-!
# Exploring the threads at a place

The frontier of a list of threads is found with one list of the threads met so far.
Here the same is told thread by thread.  A thread that was met before and is dropped
would have failed, unless it is on the path of the thread that leads to it, so the
frontier yields what trying the threads comes to.
-/

namespace FieldGrammar
namespace Pattern
namespace Frontier

/-!
# Frontiers one after the other
-/

/-- A frontier that is followed by another one, which counts only while no thread is finished. -/
def append (first second : Frontier) : Frontier :=
  if first.finished then first
  else { waiting := first.waiting ++ second.waiting, finished := second.finished }

theorem append_of_finished {first : Frontier} (h : first.finished = true) (second : Frontier) :
    first.append second = first := by
  rw [append, if_pos h]

theorem append_of_open {first : Frontier} (h : first.finished = false) (second : Frontier) :
    first.append second =
      { waiting := first.waiting ++ second.waiting, finished := second.finished } := by
  rw [append, h]
  rfl

theorem append_empty (frontier : Frontier) : frontier.append empty = frontier := by
  cases frontier with
  | mk waiting finished => cases finished <;> simp [append, empty]

theorem append_assoc (a b c : Frontier) : (a.append b).append c = a.append (b.append c) := by
  cases ha : a.finished with
  | true => rw [append_of_finished ha, append_of_finished ha, append_of_finished ha]
  | false =>
      cases hb : b.finished with
      | true => rw [append_of_finished hb, append_of_finished (by rw [append_of_open ha, hb])]
      | false => simp [append, ha, hb]

theorem prepend_append (set : CharSet) (rest : Thread) (a b : Frontier) :
    (a.prepend set rest).append b = (a.append b).prepend set rest := by
  cases ha : a.finished <;> simp [append, prepend, ha]

theorem advance_append_of_open {first : Frontier} (h : first.finished = false)
    (second : Frontier) (c : Char) :
    (first.append second).advance c = first.advance c ++ second.advance c := by
  rw [append_of_open h, advance, List.filterMap_append]
  rfl

theorem advance_prepend_of_mem {set : CharSet} {c : Char} (h : set.contains c = true)
    (rest : Thread) (frontier : Frontier) :
    (frontier.prepend set rest).advance c = rest :: frontier.advance c := by
  simp [prepend, advance, h]

theorem advance_prepend_of_not_mem {set : CharSet} {c : Char} (h : ¬ set.contains c = true)
    (rest : Thread) (frontier : Frontier) :
    (frontier.prepend set rest).advance c = frontier.advance c := by
  simp [prepend, advance, h]

/-!
# Thread by thread

What exploring a list of threads comes to, given the threads met before: the number
of threads looked at, the frontier, and the threads met in the end.
-/

inductive Visits (holds : Assertion -> Bool) :
    List Thread -> List Thread -> Nat -> Frontier -> List Thread -> Prop where
  | nothing {seen : List Thread} : Visits holds seen [] 0 empty seen
  | met {seen others met : List Thread} {thread : Thread} {looks : Nat} {frontier : Frontier} :
      thread ∈ seen ->
      Visits holds seen others looks frontier met ->
      Visits holds seen (thread :: others) (looks + 1) frontier met
  | finish {seen others : List Thread} {thread : Thread} :
      thread ∉ seen ->
      thread.move holds = .finish ->
      Visits holds seen (thread :: others) 1 done seen
  | read {seen others met : List Thread} {thread rest : Thread} {set : CharSet} {looks : Nat}
      {frontier : Frontier} :
      thread ∉ seen ->
      thread.move holds = .read set rest ->
      Visits holds (thread :: seen) others looks frontier met ->
      Visits holds seen (thread :: others) (looks + 1) (frontier.prepend set rest) met
  | split {seen others parts between met : List Thread} {thread : Thread}
      {looksParts looksOthers : Nat} {first second : Frontier} :
      thread ∉ seen ->
      thread.move holds = .split parts ->
      Visits holds (thread :: seen) parts looksParts first between ->
      Visits holds between others looksOthers second met ->
      Visits holds seen (thread :: others) (looksParts + looksOthers + 1) (first.append second) met

/-- Exploring a list of threads and then the rest of the work. -/
theorem Visits.explore_append {holds : Assertion -> Bool} {seen threads met : List Thread}
    {looks : Nat} {frontier : Frontier} (h : Visits holds seen threads looks frontier met)
    (fuel : Nat) (work : List Thread) :
    explore holds (looks + fuel) (threads ++ work) seen =
      frontier.append (explore holds fuel work met) := by
  induction h generalizing fuel work with
  | nothing =>
      rw [Nat.zero_add]
      rfl
  | met hmem _ ih =>
      rw [Nat.add_right_comm, List.cons_append, explore, if_pos (by simpa using hmem), ih]
  | finish hnew hmove =>
      rw [Nat.add_comm, List.cons_append, explore, if_neg (by simpa using hnew), hmove]
      rfl
  | read hnew hmove _ ih =>
      rw [Nat.add_right_comm, List.cons_append, explore, if_neg (by simpa using hnew), hmove,
        prepend_append, ← ih]
  | split hnew hmove _ _ ihparts ihothers =>
      rw [Nat.add_right_comm, List.cons_append, explore, if_neg (by simpa using hnew), hmove,
        append_assoc, ← ihothers, ← ihparts, Nat.add_assoc]

/-!
# What a frontier yields

The first of the waiting threads that comes to its end after the next character, or
the thread that is finished at the place itself.
-/

def here (frontier : Frontier) : Option Nat :=
  if frontier.finished then some 0 else none

inductive Yields : List Char -> Frontier -> Option Nat -> Prop where
  | ended {frontier : Frontier} : Yields [] frontier frontier.here
  | next {c : Char} {cs : List Char} {frontier : Frontier} {outcome : Option Nat} :
      Tried [] (some c) cs (frontier.advance c) outcome ->
      Yields (c :: cs) frontier ((outcome.map (· + 1)).or frontier.here)

theorem here_eq_none {frontier : Frontier} :
    frontier.here = none <-> frontier.finished = false := by
  unfold here
  cases frontier.finished <;> simp

theorem yields_empty (cs : List Char) : Yields cs empty none := by
  cases cs with
  | nil => exact .ended
  | cons c rest =>
      have htried : Tried [] (some c) rest (empty.advance c) none := .nothing
      exact .next htried

theorem yields_done (cs : List Char) : Yields cs done (some 0) := by
  cases cs with
  | nil => exact .ended
  | cons c rest =>
      have htried : Tried [] (some c) rest (done.advance c) none := .nothing
      exact .next htried

section

variable {cs : List Char} {frontier : Frontier} {set : CharSet} {rest : Thread}
  {outcome : Option Nat}

theorem Yields.prepend_stuck (h : Yields cs frontier outcome)
    (hstuck : forall c, cs.head? = some c -> ¬ set.contains c = true) :
    Yields cs (frontier.prepend set rest) outcome := by
  cases h with
  | ended => exact .ended
  | next htried =>
      rw [← advance_prepend_of_not_mem (hstuck _ rfl) rest frontier] at htried
      exact .next htried

theorem yields_prepend_found {c : Char} {n : Nat} (hreads : set.contains c = true)
    (hrest : Tried [] (some c) cs [rest] (some n)) :
    Yields (c :: cs) (frontier.prepend set rest) (some (n + 1)) := by
  have htried := hrest.append_found (frontier.advance c)
  rw [List.singleton_append, ← advance_prepend_of_mem hreads] at htried
  exact .next htried

theorem Yields.prepend_failed {c : Char} (h : Yields (c :: cs) frontier outcome)
    (hreads : set.contains c = true) (hrest : Tried [] (some c) cs [rest] none) :
    Yields (c :: cs) (frontier.prepend set rest) outcome := by
  cases h with
  | next hlater =>
      have htried := hrest.append_failed hlater
      rw [List.singleton_append, ← advance_prepend_of_mem hreads] at htried
      exact .next htried

end

theorem Yields.append_found {cs : List Char} {first : Frontier} {n : Nat}
    (h : Yields cs first (some n)) (second : Frontier) :
    Yields cs (first.append second) (some n) := by
  cases hfinished : first.finished with
  | true =>
      rw [append_of_finished hfinished]
      exact h
  | false =>
      have hhere := here_eq_none.mpr hfinished
      generalize houtcome : some n = outcome at h
      cases h with
      | ended =>
          rw [hhere] at houtcome
          cases houtcome
      | next htried =>
          rename_i c rest inner
          cases inner with
          | none =>
              rw [hhere] at houtcome
              cases houtcome
          | some m =>
              have hlater := htried.append_found (second.advance c)
              rw [← advance_append_of_open hfinished] at hlater
              exact .next hlater

theorem Yields.finished_of_none {cs : List Char} {frontier : Frontier}
    (h : Yields cs frontier none) : frontier.finished = false := by
  generalize houtcome : none = outcome at h
  cases h with
  | ended => exact here_eq_none.mp houtcome.symm
  | next => exact here_eq_none.mp (Option.or_eq_none_iff.mp houtcome.symm).2

theorem Yields.append_failed {cs : List Char} {first second : Frontier} {outcome : Option Nat}
    (hfirst : Yields cs first none) (hsecond : Yields cs second outcome) :
    Yields cs (first.append second) outcome := by
  have hopen := hfirst.finished_of_none
  have hhere : (first.append second).here = second.here := by
    rw [append_of_open hopen]
    rfl
  generalize hnone : none = failed at hfirst
  cases hsecond with
  | ended =>
      rw [← hhere]
      exact .ended
  | next hlater =>
      rename_i c rest later
      cases hfirst with
      | next htried =>
          rw [(Option.map_eq_none_iff.mp (Option.or_eq_none_iff.mp hnone.symm).1)] at htried
          have hboth := htried.append_failed hlater
          rw [← advance_append_of_open hopen] at hboth
          rw [← hhere]
          exact .next hboth

/-!
# Threads that were met before

A thread that was met is dead when all it can still do is known to fail: its parts
were met too, or it fails on the next character.  Where every thread met is dead, those
on the path apart, trying them again comes to nothing.
-/

inductive Dead (before : Option Char) (cs : List Char) (met : List Thread) (thread : Thread) :
    Prop where
  | split {parts : List Thread} :
      thread.moveAt before cs = .split parts ->
      (forall part, part ∈ parts -> part ∈ met) ->
      Dead before cs met thread
  | stuck {set : CharSet} {rest : Thread} :
      thread.moveAt before cs = .read set rest ->
      (forall c, cs.head? = some c -> ¬ set.contains c = true) ->
      Dead before cs met thread
  | read {set : CharSet} {rest : Thread} {c : Char} {later : List Char} :
      cs = c :: later ->
      thread.moveAt before cs = .read set rest ->
      set.contains c = true ->
      Tried [] (some c) later [rest] none ->
      Dead before cs met thread

def Exhausted (before : Option Char) (cs : List Char) (path met : List Thread) : Prop :=
  forall thread, thread ∈ met -> thread ∉ path -> Dead before cs met thread

theorem Dead.mono {before : Option Char} {cs : List Char} {met more : List Thread}
    {thread : Thread} (h : Dead before cs met thread) (hmore : forall t, t ∈ met -> t ∈ more) :
    Dead before cs more thread := by
  cases h with
  | split hmove hparts => exact .split hmove fun part hpart => hmore part (hparts part hpart)
  | stuck hmove hstuck => exact .stuck hmove hstuck
  | read hcs hmove hreads hrest => exact .read hcs hmove hreads hrest

theorem Exhausted.cons_path {before : Option Char} {cs : List Char} {path met : List Thread}
    (h : Exhausted before cs path met) (thread : Thread) :
    Exhausted before cs (thread :: path) met :=
  fun other hother hpath => h other hother (List.not_mem_of_not_mem_cons hpath)

theorem Exhausted.cons {before : Option Char} {cs : List Char} {path met : List Thread}
    (h : Exhausted before cs path met) (thread : Thread) :
    Exhausted before cs (thread :: path) (thread :: met) := by
  intro other hother hpath
  rw [List.mem_cons, not_or] at hpath
  have hmem : other ∈ met := (List.mem_cons.mp hother).resolve_left hpath.1
  exact (h other hmem hpath.2).mono fun t => List.mem_cons_of_mem thread

end Frontier

theorem Tried.none_of_exhausted {path threads met : List Thread} {before : Option Char}
    {cs : List Char} {outcome : Option Nat} (h : Tried path before cs threads outcome)
    (hdead : Frontier.Exhausted before cs path met)
    (hmet : forall thread, thread ∈ threads -> thread ∈ met) : outcome = none := by
  -- Dead threads can lead to one another, so the induction is on how they were tried: a
  -- longer path leaves fewer threads to be dead, and the list of those met stays as it is.
  induction h with
  | nothing => rfl
  | round _ _ ih => exact ih hdead (List.forall_mem_cons.mp hmet).2
  | finish hnew hmove =>
      cases hdead _ (List.forall_mem_cons.mp hmet).1 hnew with
      | split hother => cases hmove.symm.trans hother
      | stuck hother => cases hmove.symm.trans hother
      | read _ hother => cases hmove.symm.trans hother
  | splitFound hnew hmove _ ih =>
      cases hdead _ (List.forall_mem_cons.mp hmet).1 hnew with
      | split hother hparts =>
          cases hmove.symm.trans hother
          exact ih (hdead.cons_path _) hparts
      | stuck hother => cases hmove.symm.trans hother
      | read _ hother => cases hmove.symm.trans hother
  | splitFailed _ _ _ _ _ ih => exact ih hdead (List.forall_mem_cons.mp hmet).2
  | stuck _ _ _ _ ih => exact ih hdead (List.forall_mem_cons.mp hmet).2
  | readFound hnew hmove hreads hrest =>
      cases hdead _ (List.forall_mem_cons.mp hmet).1 hnew with
      | split hother => cases hmove.symm.trans hother
      | stuck hother hstuck =>
          cases hmove.symm.trans hother
          exact absurd hreads (hstuck _ rfl)
      | read hcs hother _ hfailed =>
          cases hcs
          cases hmove.symm.trans hother
          cases hrest.unique hfailed
  | readFailed _ _ _ _ _ _ ih => exact ih hdead (List.forall_mem_cons.mp hmet).2

/-- A dead thread is passed over. -/
theorem Tried.of_dead {path others met : List Thread} {thread : Thread} {before : Option Char}
    {cs : List Char} {outcome : Option Nat}
    (h : Tried path before cs (thread :: others) outcome) (hnew : thread ∉ path)
    (hmem : thread ∈ met) (hdead : Frontier.Exhausted before cs path met) :
    Tried path before cs others outcome := by
  cases hdead thread hmem hnew with
  | split hmove hparts =>
      rcases h.of_split hnew hmove with ⟨n, _, hfound⟩ | ⟨_, hothers⟩
      · cases hfound.none_of_exhausted (hdead.cons_path thread) hparts
      · exact hothers
  | stuck hmove hstuck => exact h.of_stuck hnew hmove hstuck
  | read hcs hmove hreads hfailed =>
      cases hcs
      rcases h.of_read hnew hmove hreads with ⟨n, _, hfound⟩ | ⟨_, hothers⟩
      · cases hfound.unique hfailed
      · exact hothers

namespace Frontier

/-- After a failure, all threads that were met are dead, and none was left out. -/
structure Spent (before : Option Char) (cs : List Char) (path threads seen met : List Thread) :
    Prop where
  dead : Exhausted before cs path met
  threads_met : forall thread, thread ∈ threads -> thread ∈ met
  seen_met : forall thread, thread ∈ seen -> thread ∈ met

theorem Spent.cons {before : Option Char} {cs : List Char}
    {path others seen met : List Thread} {thread : Thread}
    (h : Spent before cs path others (thread :: seen) met) :
    Spent before cs path (thread :: others) seen met where
  dead := h.dead
  threads_met := List.forall_mem_cons.mpr
    ⟨h.seen_met thread List.mem_cons_self, h.threads_met⟩
  seen_met := (List.forall_mem_cons.mp h.seen_met).2

theorem Exhausted.cons_dead {before : Option Char} {cs : List Char}
    {path met : List Thread} (h : Exhausted before cs path met) {thread : Thread}
    (hdead : Dead before cs (thread :: met) thread) :
    Exhausted before cs path (thread :: met) := by
  intro other hother hpath
  rcases List.mem_cons.mp hother with rfl | hmem
  · exact hdead
  · exact (h other hmem hpath).mono fun t => List.mem_cons_of_mem thread

/--
What is found at a place is what trying the threads comes to.  The threads met before
are dead, those on the path apart, and as long as nothing is found they stay so.
-/
def Finds (before : Option Char) (cs : List Char) (seen threads : List Thread)
    (frontier : Frontier) (met : List Thread) : Prop :=
  forall path outcome, path ⊆ seen -> Exhausted before cs path seen ->
    Tried path before cs threads outcome ->
    Yields cs frontier outcome ∧ (outcome = none -> Spent before cs path threads seen met)

section

variable {before : Option Char} {cs : List Char} {seen others met : List Thread} {thread : Thread}
  {frontier : Frontier}

theorem finds_nothing : Finds before cs seen [] empty seen := by
  intro path outcome _ hdead htried
  cases htried
  exact ⟨yields_empty cs, fun _ => ⟨hdead, by simp, fun t ht => ht⟩⟩

theorem finds_met (hmem : thread ∈ seen) (h : Finds before cs seen others frontier met) :
    Finds before cs seen (thread :: others) frontier met := by
  intro path outcome hpath hdead htried
  have hothers : Tried path before cs others outcome := by
    by_cases hround : thread ∈ path
    · exact htried.of_round hround
    · exact htried.of_dead hround hmem hdead
  rcases h path outcome hpath hdead hothers with ⟨hyields, hspent⟩
  refine ⟨hyields, ?_⟩
  intro hnone
  rcases hspent hnone with ⟨hall, hthreads, hseen⟩
  exact ⟨hall, List.forall_mem_cons.mpr ⟨hseen thread hmem, hthreads⟩, hseen⟩

theorem finds_finish (hnew : thread ∉ seen) (hmove : thread.moveAt before cs = .finish) :
    Finds before cs seen (thread :: others) done met := by
  intro path outcome hpath _ htried
  cases htried.of_finish (fun hround => hnew (hpath hround)) hmove
  refine ⟨yields_done cs, ?_⟩
  rintro ⟨⟩

theorem finds_read {rest : Thread} {set : CharSet} (hnew : thread ∉ seen)
    (hmove : thread.moveAt before cs = .read set rest)
    (h : Finds before cs (thread :: seen) others frontier met) :
    Finds before cs seen (thread :: others) (frontier.prepend set rest) met := by
  intro path outcome hpath hdead htried
  have hout : thread ∉ path := fun hround => hnew (hpath hround)
  have hpath' : path ⊆ thread :: seen := List.subset_cons_of_subset thread hpath
  by_cases hstuck : forall c, cs.head? = some c -> ¬ set.contains c = true
  · have hthread : Dead before cs (thread :: seen) thread := .stuck hmove hstuck
    rcases h path outcome hpath' (hdead.cons_dead hthread) (htried.of_stuck hout hmove hstuck) with
      ⟨hyields, hspent⟩
    exact ⟨hyields.prepend_stuck hstuck, fun hnone => (hspent hnone).cons⟩
  · simp only [Classical.not_forall, Classical.not_not] at hstuck
    rcases hstuck with ⟨c, hhead, hreads⟩
    rcases List.head?_eq_some_iff.mp hhead with ⟨later, rfl⟩
    rcases htried.of_read hout hmove hreads with ⟨n, rfl, hfound⟩ | ⟨hfailed, hothers⟩
    · refine ⟨yields_prepend_found hreads hfound, ?_⟩
      rintro ⟨⟩
    · have hthread : Dead before (c :: later) (thread :: seen) thread :=
        .read rfl hmove hreads hfailed
      rcases h path outcome hpath' (hdead.cons_dead hthread) hothers with ⟨hyields, hspent⟩
      exact ⟨hyields.prepend_failed hreads hfailed, fun hnone => (hspent hnone).cons⟩

/-- A thread whose parts have failed is dead. -/
theorem Spent.split {path parts : List Thread} (hmove : thread.moveAt before cs = .split parts)
    (h : Spent before cs (thread :: path) parts (thread :: seen) met) :
    Exhausted before cs path met := by
  intro other hother hpath
  by_cases hsame : other = thread
  · rw [hsame]
    exact .split hmove h.threads_met
  · exact h.dead other hother (List.not_mem_cons_of_ne_of_not_mem hsame hpath)

theorem finds_split {parts between : List Thread} {second : Frontier} (hnew : thread ∉ seen)
    (hmove : thread.moveAt before cs = .split parts)
    (hparts : Finds before cs (thread :: seen) parts frontier between)
    (hothers : Finds before cs between others second met) :
    Finds before cs seen (thread :: others) (frontier.append second) met := by
  intro path outcome hpath hdead htried
  have hout : thread ∉ path := fun hround => hnew (hpath hround)
  have hpath' : thread :: path ⊆ thread :: seen := List.cons_subset_cons thread hpath
  rcases htried.of_split hout hmove with ⟨n, rfl, hfound⟩ | ⟨hfailed, hlater⟩
  · have hyields := (hparts _ _ hpath' (hdead.cons thread) hfound).1
    refine ⟨hyields.append_found second, ?_⟩
    rintro ⟨⟩
  · -- The thread leaves the path dead, since its parts were all met and have failed.
    rcases hparts _ _ hpath' (hdead.cons thread) hfailed with ⟨hyields, hspent⟩
    have hfirst := hspent rfl
    have hbetween : path ⊆ between := fun t ht =>
      hfirst.seen_met t (List.mem_cons_of_mem thread (hpath ht))
    rcases hothers path outcome hbetween (hfirst.split hmove) hlater with ⟨hyields', hspent'⟩
    refine ⟨hyields.append_failed hyields', ?_⟩
    intro hnone
    have hsecond := hspent' hnone
    have hseen : forall t, t ∈ thread :: seen -> t ∈ met :=
      fun t ht => hsecond.seen_met t (hfirst.seen_met t ht)
    exact Spent.cons ⟨hsecond.dead, hsecond.threads_met, hseen⟩

end

theorem Visits.finds {before : Option Char} {cs : List Char} {seen threads met : List Thread}
    {looks : Nat} {frontier : Frontier}
    (h : Visits (Assertion.holds before cs.head?) seen threads looks frontier met) :
    Finds before cs seen threads frontier met := by
  induction h with
  | nothing => exact finds_nothing
  | met hmem _ ih => exact finds_met hmem ih
  | finish hnew hmove => exact finds_finish hnew hmove
  | read hnew hmove _ ih => exact finds_read hnew hmove ih
  | split hnew hmove _ _ ihparts ihothers => exact finds_split hnew hmove ihparts ihothers

/-- At the start nothing was met, and the path is empty. -/
theorem Visits.yields {before : Option Char} {cs : List Char} {threads met : List Thread}
    {looks : Nat} {frontier : Frontier} {outcome : Option Nat}
    (h : Visits (Assertion.holds before cs.head?) [] threads looks frontier met)
    (htried : Tried [] before cs threads outcome) : Yields cs frontier outcome :=
  (h.finds [] outcome (List.nil_subset []) (by simp [Exhausted]) htried).1

end Frontier
end Pattern
end FieldGrammar
